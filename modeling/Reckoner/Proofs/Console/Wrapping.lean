import Mathlib.Data.List.TakeWhile
import Reckoner.Console.Wrap

/-!
# Texts that are one word

A text without blanks is a single word. If it is wider than a line, it is cut into
pieces of the width of a line, and as there are no blanks to be dropped, every piece
stands on a line of its own with nothing left out. So the text is what was printed
without the line ends (`filter_toList_printed`). There are none in it exactly if it fits
a line (`prompted_of_columns_le`, `newline_mem_joinLines`).
-/

namespace Reckoner

open Text (isBlank columns columns_nil columns_cons width)

namespace Text

theorem width_le_two (c : Char) : width c ≤ 2 := by
  unfold width
  repeat' split
  all_goals decide

theorem parts_of_not_mem {separator : Char} {cs : List Char} (h : separator ∉ cs) :
    parts separator cs = [cs] := by
  induction cs with
  | nil => rfl
  | cons c cs ih =>
      obtain ⟨hc, hcs⟩ := not_or.1 (mt List.mem_cons.2 h)
      rw [parts, if_neg (Ne.symm hc), ih hcs]

theorem trimEnd_of_all_not {p : Char → Bool} {cs : List Char} (h : ∀ c ∈ cs, p c = false) :
    trimEnd p cs = cs := by
  have hdrop : cs.reverse.dropWhile p = cs.reverse := by
    refine List.dropWhile_eq_self_iff.2 fun hlength => ?_
    have hmem := h _ (List.mem_reverse.1 (List.getElem_mem hlength))
    rw [hmem]
    exact Bool.false_ne_true
  rw [trimEnd, hdrop, List.reverse_reverse]

end Text

namespace Console

variable {cs line : List Char} {size w column : Nat}

/-! ### One word -/

theorem expandTabs_of_not_mem (h : '\t' ∉ cs) (column : Nat) : expandTabs column cs = cs := by
  induction cs generalizing column with
  | nil => rfl
  | cons c cs ih =>
      obtain ⟨hc, hcs⟩ := not_or.1 (mt List.mem_cons.2 h)
      rw [expandTabs, if_neg (Ne.symm hc), ih hcs]

theorem wordsFrom_of_not_blank {c : Char} (h : ∀ d ∈ cs, isBlank d = false) :
    wordsFrom (c :: cs) = [c :: cs] := by
  have hnot : ∀ d ∈ cs, (!isBlank d) = true := fun d hd => by rw [h d hd, Bool.not_false]
  rw [wordsFrom, List.takeWhile_eq_self_iff.2 hnot, List.dropWhile_eq_nil_iff.2 hnot,
    List.takeWhile_nil, List.dropWhile_nil, wordsFrom, List.append_nil]

theorem words_of_not_blank (h : ∀ c ∈ cs, isBlank c = false) : words cs = [cs] := by
  cases cs with
  | nil => rw [words, List.dropWhile_nil, wordsFrom, List.takeWhile_nil]
  | cons c cs =>
      have hc : ¬ isBlank c = true := by
        rw [h c List.mem_cons_self]
        exact Bool.false_ne_true
      rw [words, List.dropWhile_cons_of_neg hc, List.takeWhile_cons_of_neg hc,
        wordsFrom_of_not_blank fun d hd => h d (List.mem_cons_of_mem c hd)]
      rfl

/-! ### Pieces -/

theorem cutsFrom_ne_nil (size column : Nat) (cs : List Char) : cutsFrom size column cs ≠ [] := by
  cases cs with
  | nil => exact List.cons_ne_nil _ _
  | cons c cs =>
      rw [cutsFrom]
      repeat' split
      all_goals exact List.cons_ne_nil _ _

/-- The pieces of a text make up the text. -/
theorem flatten_cutsFrom (size column : Nat) (cs : List Char) :
    (cutsFrom size column cs).flatten = cs := by
  induction cs generalizing column with
  | nil => rfl
  | cons c cs ih =>
      rw [cutsFrom]
      split
      · obtain ⟨piece, others, h⟩ := List.exists_cons_of_ne_nil (cutsFrom_ne_nil size (width c) cs)
        have hflatten := ih (width c)
        rw [h, List.flatten_cons] at hflatten
        rw [h, List.flatten_cons, List.flatten_cons, List.nil_append, List.cons_append, hflatten]
      · obtain ⟨piece, others, h⟩ :=
          List.exists_cons_of_ne_nil (cutsFrom_ne_nil size (column + width c) cs)
        have hflatten := ih (column + width c)
        rw [h, List.flatten_cons] at hflatten
        rw [h, List.flatten_cons, List.cons_append, hflatten]

/-- Every piece fits a line of at least two columns, the first one what is left of
its line. -/
theorem columns_cutsFrom_le (hsize : 2 ≤ size) (cs : List Char) (hcolumn : column ≤ size) :
    ∃ piece others, cutsFrom size column cs = piece :: others ∧ column + columns piece ≤ size ∧
      ∀ other ∈ others, columns other ≤ size := by
  induction cs generalizing column with
  | nil => exact ⟨[], [], rfl, hcolumn, fun _ h => absurd h List.not_mem_nil⟩
  | cons c cs ih =>
      rw [cutsFrom]
      by_cases hc : size < column + width c
      · obtain ⟨piece, others, h, hpiece, hothers⟩ := ih (Nat.le_trans (Text.width_le_two c) hsize)
        rw [if_pos hc, h]
        refine ⟨[], (c :: piece) :: others, rfl, hcolumn, ?_⟩
        intro other hother
        rcases List.mem_cons.1 hother with rfl | hother
        · rw [columns_cons]
          exact hpiece
        · exact hothers other hother
      · obtain ⟨piece, others, h, hpiece, hothers⟩ := ih (Nat.not_lt.1 hc)
        rw [if_neg hc, h]
        refine ⟨c :: piece, others, rfl, ?_, hothers⟩
        rw [columns_cons, ← Nat.add_assoc]
        exact hpiece

theorem columns_le_of_mem_cuts (hsize : 2 ≤ size) {piece : List Char} (h : piece ∈ cuts size cs) :
    columns piece ≤ size := by
  obtain ⟨first, others, heq, hfirst, hothers⟩ := columns_cutsFrom_le hsize cs (Nat.zero_le size)
  rw [cuts, heq] at h
  rcases List.mem_cons.1 h with rfl | h
  · rwa [Nat.zero_add] at hfirst
  · exact hothers piece h

/-! ### Lines -/

namespace Filling

/-- The lines so far, in order. -/
def lines (f : Filling) : List (List Char) := (f.line :: f.complete).reverse

theorem flatten_lines_startLine (f : Filling) (line : List Char) :
    (f.startLine line).lines.flatten = f.lines.flatten ++ line := by
  rw [startLine]
  split
  · next h => simp [lines, h]
  · simp [lines]

theorem mem_lines_startLine {f : Filling} {line line' : List Char}
    (h : line' ∈ (f.startLine line).lines) : line' ∈ f.lines ∨ line' = line := by
  rw [startLine] at h
  split at h
  · rw [lines, List.mem_reverse, List.mem_cons] at h ⊢
    rcases h with h | h
    · exact .inr h
    · exact .inl (.inr h)
  · rw [lines, List.mem_reverse, List.mem_cons] at h ⊢
    rcases h with h | h
    · exact .inr h
    · exact .inl (List.mem_cons.1 h)

/-- Pieces that are put on lines of their own are kept, and no other line is made. -/
theorem lines_foldl_startLine (pieces : List (List Char)) (f : Filling) :
    (pieces.foldl startLine f).lines.flatten = f.lines.flatten ++ pieces.flatten ∧
      ∀ line ∈ (pieces.foldl startLine f).lines, line ∈ f.lines ∨ line ∈ pieces := by
  induction pieces generalizing f with
  | nil => exact ⟨(List.append_nil _).symm, fun _ => .inl⟩
  | cons piece pieces ih =>
      obtain ⟨hflatten, hmem⟩ := ih (f.startLine piece)
      rw [List.foldl_cons]
      refine ⟨?_, fun line hline => ?_⟩
      · rw [hflatten, flatten_lines_startLine, List.flatten_cons, List.append_assoc]
      · rcases hmem line hline with h | h
        · rcases mem_lines_startLine h with h | rfl
          · exact .inl h
          · exact .inr List.mem_cons_self
        · exact .inr (List.mem_cons_of_mem piece h)

/-- The first word of a text, without blanks, is kept on lines that it fits. -/
theorem lines_place (hw : 2 ≤ w) (h : ∀ c ∈ cs, isBlank c = false) :
    (place w ⟨[], []⟩ cs).lines.flatten = cs ∧
      ∀ line ∈ (place w ⟨[], []⟩ cs).lines, columns line ≤ w := by
  unfold place
  simp only [Text.trimEnd_of_all_not h, columns_nil, Nat.zero_add]
  by_cases hfits : columns cs ≤ w
  · rw [if_pos hfits]
    refine ⟨List.append_nil cs, fun line hline => ?_⟩
    obtain rfl : line = cs := List.mem_singleton.1 hline
    exact hfits
  · rw [if_neg hfits, if_neg hfits]
    obtain ⟨hflatten, hmem⟩ := lines_foldl_startLine (cuts w cs) ⟨[], []⟩
    refine ⟨?_, fun line hline => ?_⟩
    · rw [hflatten, cuts, flatten_cutsFrom]
      rfl
    · rcases hmem line hline with hline | hline
      · obtain rfl : line = [] := List.mem_singleton.1 hline
        exact Nat.zero_le w
      · exact columns_le_of_mem_cuts hw hline

end Filling

theorem dropOverhang_of_not_blank (h : ∀ c ∈ line, isBlank c = false) :
    dropOverhang w line = line := by
  have hblanks : line.reverse.takeWhile isBlank = [] := by
    refine List.takeWhile_eq_nil_iff.2 fun hlength => ?_
    rw [List.get_eq_getElem, h _ (List.mem_reverse.1 (List.getElem_mem hlength))]
    exact Bool.false_ne_true
  simp only [dropOverhang, hblanks, List.length_nil, Nat.zero_min, Nat.sub_zero, List.take_length]

/-- A text without blanks is put on lines as its one word is. -/
theorem wrapLine_eq_lines (hw : 2 ≤ w) (h : ∀ c ∈ cs, isBlank c = false) :
    wrapLine w cs = (Filling.place w ⟨[], []⟩ cs).lines := by
  have htab : '\t' ∉ cs := fun hmem => absurd (h _ hmem) (by decide)
  obtain ⟨hflatten, hcolumns⟩ := Filling.lines_place hw h
  have hkept : ∀ line ∈ (Filling.place w ⟨[], []⟩ cs).lines,
      crop w (dropOverhang w line) = line := by
    intro line hline
    have hblank : ∀ c ∈ line, isBlank c = false := by
      intro c hc
      apply h
      rw [← hflatten]
      exact List.mem_flatten_of_mem hline hc
    rw [dropOverhang_of_not_blank hblank, crop, if_pos (hcolumns line hline)]
  have hlines := (List.map_congr_left hkept).trans (List.map_id' _)
  rw [wrapLine, expandTabs_of_not_mem htab, words_of_not_blank h, List.foldl_cons, List.foldl_nil]
  exact hlines

theorem wrapLine_of_not_blank (hw : 2 ≤ w) (h : ∀ c ∈ cs, isBlank c = false) :
    (wrapLine w cs).flatten = cs := by
  rw [wrapLine_eq_lines hw h, (Filling.lines_place hw h).1]

/-- A text without blanks that fits a line is this line. -/
theorem wrapLine_of_columns_le (hw : 2 ≤ w) (h : ∀ c ∈ cs, isBlank c = false)
    (hfits : columns cs ≤ w) : wrapLine w cs = [cs] := by
  have hbare : columns [] + columns (Text.trimEnd isBlank cs) ≤ w := by
    rwa [Text.trimEnd_of_all_not h, columns_nil, Nat.zero_add]
  rw [wrapLine_eq_lines hw h, Filling.place, if_pos hbare]
  rfl

/-- A text without blanks that does not fit a line has a line end in it. -/
theorem newline_mem_joinLines (hw : 2 ≤ w) (h : ∀ c ∈ cs, isBlank c = false)
    (hwide : w < columns cs) : '\n' ∈ (joinLines (wrapLine w cs)).toList := by
  have hflatten := wrapLine_of_not_blank hw h
  have hcolumns := (Filling.lines_place hw h).2
  rw [← wrapLine_eq_lines hw h] at hcolumns
  rw [joinLines, String.toList_ofList]
  match hlines : wrapLine w cs with
  | [] =>
      rw [hlines, List.flatten_nil] at hflatten
      rw [← hflatten, columns_nil] at hwide
      exact absurd hwide (Nat.not_lt_zero w)
  | [line] =>
      rw [hlines, List.flatten_singleton] at hflatten
      have hle := hcolumns line (hlines ▸ List.mem_singleton_self line)
      rw [hflatten] at hle
      exact absurd hwide (Nat.not_lt.2 hle)
  | first :: second :: rest =>
      rw [List.intercalate_cons_cons]
      simp

/-- Lines are joined with nothing but line ends between them. -/
theorem filter_joinLines (lines : List (List Char)) :
    (joinLines lines).toList.filter (· != '\n') = lines.flatten.filter (· != '\n') := by
  rw [joinLines, String.toList_ofList]
  induction lines with
  | nil => rfl
  | cons line lines ih =>
      cases lines with
      | nil => simp
      | cons next lines =>
          have hend : ['\n'].filter (· != '\n') = [] := rfl
          rw [List.intercalate_cons_cons, List.filter_append, List.filter_append, ih, hend,
            List.append_nil, ← List.filter_append]
          rfl

theorem prompted_of_not_blank {s : String} (h : ∀ c ∈ s.toList, isBlank c = false) :
    prompted s = joinLines (wrapLine lineWidth s.toList) := by
  have hend : '\n' ∉ s.toList := fun hmem => absurd (h _ hmem) (by decide)
  rw [prompted, wrap, Text.parts_of_not_mem hend, List.flatMap_singleton]

/-- A text without blanks is printed as it is, apart from line ends. -/
theorem filter_toList_printed {s : String} (h : ∀ c ∈ s.toList, isBlank c = false) :
    (printed s).toList.filter (· != '\n') = s.toList := by
  have hend : '\n' ∉ s.toList := fun hmem => absurd (h _ hmem) (by decide)
  have hself : s.toList.filter (· != '\n') = s.toList := by
    refine List.filter_eq_self.2 fun c hc => bne_iff_ne.2 ?_
    rintro rfl
    exact hend hc
  rw [printed, String.toList_append, List.filter_append, prompted_of_not_blank h,
    filter_joinLines, wrapLine_of_not_blank (by decide) h, hself]
  exact List.append_nil _

theorem prompted_of_columns_le {s : String} (h : ∀ c ∈ s.toList, isBlank c = false)
    (hfits : columns s.toList ≤ lineWidth) : prompted s = s := by
  rw [prompted_of_not_blank h, wrapLine_of_columns_le (by decide) h hfits, joinLines,
    List.intercalate_singleton, String.ofList_toList]

end Console

end Reckoner
