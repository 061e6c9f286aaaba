import Reckoner.Proofs.Legibility

/-!
# Rendered tokens

Spaces are lost when a text is scanned, and zeros come in that nobody wrote, so a text cannot be
told from its tokens. The tokens can be told from their rendering: the rows that the scanner
makes are exactly the rows with an operand before every minus, and each of them, written with
single spaces, is scanned into itself (`scan_render_iff`).
-/

namespace Reckoner.Token

/-- The tokens can be written in an expression, and an operand stands before every minus. -/
structure Canonical (tokens : List Token) : Prop where
  lexical : ∀ t ∈ tokens, Lexical t
  operand_before_minus : ∀ before after, tokens = before ++ operator .sub :: after →
    ∃ t ∈ before.getLast?, t.kind = .number ∨ t.kind = .rightParen

/-- Behind a token of the kind `previous`, no minus of the row has an implied zero. -/
def Signless (previous : Option TokenKind) (tokens : List Token) : Prop :=
  ∀ before after, tokens = before ++ operator .sub :: after →
    expectsOperand (lastKind previous before) = false

theorem signless_nil (previous : Option TokenKind) : Signless previous [] := by
  simp [Signless]

theorem signless_cons_iff {previous : Option TokenKind} {t : Token} {tokens : List Token} :
    Signless previous (t :: tokens) ↔
      (t = operator .sub → expectsOperand previous = false) ∧ Signless (some t.kind) tokens := by
  constructor
  · intro h
    refine ⟨fun ht => h [] tokens (by rw [ht, List.nil_append]), fun before after hsplit => ?_⟩
    have := h (t :: before) after (by rw [hsplit, List.cons_append])
    rwa [lastKind_cons] at this
  · rintro ⟨hfirst, hrest⟩ before after hsplit
    cases before with
    | nil => exact hfirst (List.cons.inj hsplit).1
    | cons u before =>
        obtain ⟨rfl, hsplit'⟩ := List.cons.inj hsplit
        rw [lastKind_cons]
        exact hrest before after hsplit'

theorem expectsOperand_lastKind_eq_false_iff {tokens : List Token} :
    expectsOperand (lastKind none tokens) = false ↔
      ∃ t ∈ tokens.getLast?, t.kind = .number ∨ t.kind = .rightParen := by
  cases hlast : tokens.getLast? with
  | none => simp [lastKind, hlast, expectsOperand]
  | some t => cases hkind : t.kind <;> simp [lastKind, hlast, hkind, expectsOperand]

theorem canonical_iff {tokens : List Token} :
    Canonical tokens ↔ (∀ t ∈ tokens, Lexical t) ∧ Signless none tokens := by
  simp only [Signless, expectsOperand_lastKind_eq_false_iff]
  exact ⟨fun h => ⟨h.lexical, h.operand_before_minus⟩, fun h => ⟨h.1, h.2⟩⟩

/-! ### What the scanner makes -/

theorem signless_impliedZero_append (previous : Option TokenKind) {t : Token} {tokens : List Token}
    (h : Signless (some t.kind) tokens) :
    Signless previous (impliedZero previous t ++ t :: tokens) := by
  rw [impliedZero]
  split
  · have hzero : number "0" ≠ operator .sub := by decide
    exact signless_cons_iff.2 ⟨fun hminus => absurd hminus hzero, signless_cons_iff.2 ⟨fun _ => rfl, h⟩⟩
  · next hplain =>
    exact signless_cons_iff.2 ⟨fun hminus => Bool.eq_false_iff.2 fun hexpects =>
      hplain ⟨hminus, hexpects⟩, h⟩

/-- The scanner leaves no minus without an operand before it. -/
theorem signless_of_scanFrom {previous : Option TokenKind} {position : Nat} {cs : List Char}
    {tokens : List Token} (h : scanFrom previous position cs = .ok tokens) :
    Signless previous tokens := by
  fun_induction scanFrom previous position cs generalizing tokens with
  | case1 previous position =>
      obtain rfl := Except.ok.inj h
      exact signless_nil previous
  | case2 _ _ _ ih => exact ih h
  | case3 previous position c rest hspace hchar run hrun =>
      rename_i ih
      obtain ⟨tokens, htokens, rfl⟩ := Except.map_eq_ok_iff.1 h
      have hnumber : number (String.ofList run) ≠ operator .sub := fun heq => by
        have := congrArg kind heq
        cases this
      exact signless_cons_iff.2 ⟨fun hminus => absurd hminus hnumber, ih htokens⟩
  | case4 => cases h
  | case5 previous position c rest hspace hchar t ht ih =>
      obtain ⟨tokens, htokens, rfl⟩ := Except.map_eq_ok_iff.1 h
      exact signless_impliedZero_append previous (ih htokens)
  | case6 => cases h

/-! ### What is scanned again -/

/-- The text of a token is scanned into the token, where it has no implied zero. -/
theorem scanFrom_text_append {t : Token} (ht : Lexical t) {previous : Option TokenKind}
    (hsign : t = operator .sub → expectsOperand previous = false) (position : Nat)
    {rest : List Char} (hrest : ∀ c ∈ rest.head?, isNumeralChar c = false) :
    scanFrom previous position (t.text.toList ++ rest) =
      (scanFrom (some t.kind) (position + t.text.toList.length) rest).map (t :: ·) := by
  have hmark {c : Char} (hc : ofMark? c = some t) (htext : t.text.toList = [c]) :
      scanFrom previous position (t.text.toList ++ rest) =
        (scanFrom (some t.kind) (position + t.text.toList.length) rest).map (t :: ·) := by
    have hzero : impliedZero previous t = [] := by
      rw [impliedZero, if_neg]
      rintro ⟨hminus, hexpects⟩
      rw [hsign hminus] at hexpects
      cases hexpects
    rw [htext, List.singleton_append, scanFrom_mark previous position rest hc, hzero]
    rfl
  cases ht with
  | @number run hrun h =>
      have htext : (number (String.ofList run)).text.toList = run := String.toList_ofList
      rw [htext, scanFrom_run previous position hrun h hrest]
      rfl
  | operator o => exact hmark (ofMark?_char o) (Operator.toList_symbol o)
  | leftParen => exact hmark (c := '(') rfl rfl
  | rightParen => exact hmark (c := ')') rfl rfl

theorem toList_render (tokens : List Token) :
    (render tokens).toList = [' '].intercalate (tokens.map (·.text.toList)) := by
  rw [render, String.toList_intercalate, List.map_map]
  rfl

/-- The space between two tokens ends the first one, also where both are numbers. -/
theorem scanFrom_render {previous : Option TokenKind} {tokens : List Token}
    (hlexical : ∀ t ∈ tokens, Lexical t) (hsignless : Signless previous tokens) (position : Nat) :
    scanFrom previous position (render tokens).toList = .ok tokens := by
  rw [toList_render]
  induction tokens generalizing previous position with
  | nil => exact scanFrom_nil previous position
  | cons t tokens ih =>
      obtain ⟨ht, hlexical⟩ := List.forall_mem_cons.1 hlexical
      obtain ⟨hsign, hsignless⟩ := signless_cons_iff.1 hsignless
      have ih := ih hlexical hsignless
      cases tokens with
      | nil =>
          have hscan : scanFrom previous position (t.text.toList ++ []) = _ :=
            scanFrom_text_append ht hsign position (by simp)
          rw [List.append_nil, scanFrom_nil] at hscan
          simpa using hscan
      | cons u tokens =>
          rw [List.map_cons] at ih ⊢
          rw [List.map_cons, List.intercalate_cons_cons, List.append_assoc, List.singleton_append,
            scanFrom_text_append ht hsign position (by simp [isNumeralChar]), scanFrom_space, ih]
          rfl

/-- The canonical rows are those that are scanned again from their rendering, and those that any
text is scanned into. -/
theorem scan_render_iff (tokens : List Token) :
    (Canonical tokens ↔ scan (render tokens) = .ok tokens) ∧
      (Canonical tokens ↔ ∃ text, scan text = .ok tokens) ∧
      ∀ text, scan text = .ok tokens → scan (render tokens) = .ok tokens := by
  have hrender (h : Canonical tokens) : scan (render tokens) = .ok tokens := by
    obtain ⟨hlexical, hsignless⟩ := canonical_iff.1 h
    exact scanFrom_render hlexical hsignless 0
  have hcanonical {text : String} (h : scan text = .ok tokens) : Canonical tokens :=
    canonical_iff.2 ⟨lexical_of_scanFrom h, signless_of_scanFrom h⟩
  refine ⟨⟨hrender, hcanonical⟩, ⟨fun h => ⟨render tokens, hrender h⟩, ?_⟩, fun text h => ?_⟩
  · rintro ⟨text, h⟩
    exact hcanonical h
  · exact hrender (hcanonical h)

end Reckoner.Token
