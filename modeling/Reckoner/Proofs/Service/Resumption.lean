import Reckoner.Proofs.Editor.Replay
import Reckoner.Proofs.Service.Posted

/-!
# Keys in two requests

The service keeps nothing of an editor. A client that sends the expression of an answer
back with more keys goes on where the keys before left off: it is answered the same
expression and the same display as if all keys had been sent at once. The result text
is the same too, with one exception (`posted_keys_append`). It tells that a calculation
failed, which a new editor cannot know, and its preview tells the same unless the
expression ends in an operator.
-/

namespace Reckoner.Service

/-- The calculation with which some keys ended failed, where keys without an effect
do not count. -/
def EndsRejected (s : Settings) (text : String) (keys : List String) : Prop :=
  ∃ failed, Editor.Rejected s.resultPrecision (opened s text) (keys.map .key) failed

theorem previewed_opened (s : Settings) (text : String) :
    (opened s text).Previewed s.resultPrecision := by
  rw [opened, Editor.editor_start]
  exact Editor.previewed_refreshed ..

/-- All keys at once lead to the same editor as the later ones do from the expression
that the earlier ones lead to, but for the exception. -/
theorem replayed_append (s : Settings) (text : String) (first second : List String) :
    let middle := replayed s text first
    let resumed := replayed s middle.expression second
    replayed s text (first ++ second) = resumed ∨
      (Editor.endsWithOperator middle.expression.toList = true ∧ EndsRejected s text first ∧
        replayed s text (first ++ second) = middle.withResult s.errorPlaceholder ∧
        resumed = middle.withResult s.previewPlaceholder) := by
  intro middle resumed
  have h := Editor.run_append_restarted (previewed_opened s text) (first.map .key)
    (second.map .key)
  rw [(placeholders_opened s text).1, (placeholders_opened s text).2, ← List.map_append] at h
  exact h

/-- Keys that are sent in two requests are answered as if they were sent in one: with
the same expression, the same display and the same result text. Only if the expression
between the requests ends in an operator and a calculation on it has failed last, the
result texts may differ: they are the placeholders of an error and of a preview. -/
theorem posted_keys_append (refusal : Refusal) (s : Settings) {text : String}
    {first second : List String}
    (htext : text.length ≤ mostCharacters) (hkeys : first.length + second.length ≤ mostKeys) :
    ∃ middle shown result,
      posted refusal s .keys (keysFields text first) = ⟨200, stateRecord middle shown result⟩ ∧
      (middle.length ≤ mostCharacters → ∃ expression display result result',
        posted refusal s .keys (keysFields text (first ++ second)) =
            ⟨200, stateRecord expression display result⟩ ∧
          posted refusal s .keys (keysFields middle second) =
            ⟨200, stateRecord expression display result'⟩ ∧
          (result = result' ∨ (Editor.endsWithOperator middle.toList = true ∧
            EndsRejected s text first ∧ result = s.errorPlaceholder ∧
              result' = s.previewPlaceholder))) := by
  refine ⟨_, _, _, posted_keys refusal s htext (by omega), fun hmiddle => ?_⟩
  have hall : (first ++ second).length ≤ mostKeys := by
    rw [List.length_append]
    exact hkeys
  have hlater : second.length ≤ mostKeys := by omega
  rw [posted_keys refusal s htext hall, posted_keys refusal s hmiddle hlater]
  rcases replayed_append s text first second with heq | ⟨hends, hrejected, hfirst, hsecond⟩
  · rw [heq]
    exact ⟨_, _, _, _, rfl, rfl, .inl rfl⟩
  · rw [hfirst, hsecond]
    exact ⟨_, _, _, _, rfl, rfl, .inr ⟨hends, hrejected, rfl, rfl⟩⟩

/-- A calculation that fails on an expression that ends in an operator, and a key that
is ignored after it. -/
theorem posted_keys_append_rejected :
    let s : Settings := {}
    "1/0+".length ≤ mostCharacters ∧ ["-", "="].length + ["x"].length ≤ mostKeys ∧
    ∃ middle shown result,
      posted listing s .keys (keysFields "1/0+" ["-", "="]) =
        ⟨200, stateRecord middle shown result⟩ ∧
      (middle.length ≤ mostCharacters → ∃ expression display result result',
        posted listing s .keys (keysFields "1/0+" (["-", "="] ++ ["x"])) =
            ⟨200, stateRecord expression display result⟩ ∧
          posted listing s .keys (keysFields middle ["x"]) =
            ⟨200, stateRecord expression display result'⟩ ∧
          (result = result' ∨ (Editor.endsWithOperator middle.toList = true ∧
            EndsRejected s "1/0+" ["-", "="] ∧ result = s.errorPlaceholder ∧
              result' = s.previewPlaceholder))) := by
  intro s
  have htext : "1/0+".length ≤ mostCharacters := by decide
  have hkeys : ["-", "="].length + ["x"].length ≤ mostKeys := by decide
  exact ⟨htext, hkeys, posted_keys_append listing s htext hkeys⟩

end Reckoner.Service
