import Mathlib.Data.List.Basic
import TypedQueries.Proofs.CaseTables
import TypedQueries.Target.Naming

/-!
The loop that puts a name into snake case, as one pass that never takes anything back: an underscore
is written only when the next word begins. The loop writes it when a word ends, looks back so as not to
write a second one, and takes off what is left at the end. Both rest on no letter or digit having an
underscore in its lower-case form.
-/

namespace TypedQueries

namespace Text

theorem underscore_notMem_lowerChar {c : Char} (h : isAlphanumeric c = true) :
    '_' ∉ lowerChar c := by
  intro hmem
  have heq : c = '_' := by
    unfold lowerChar at hmem
    split at hmem
    · rename_i hc
      have hall := forall_isAscii (p := fun c => c.toLower != '_' || c == '_') (by decide +kernel) hc
      simpa [← List.mem_singleton.1 hmem] using hall
    · exact eq_of_formsAvoid (by decide +kernel) hmem
  rw [heq] at h
  exact absurd h (by decide +kernel)

end Text

namespace Naming

open Text

/-- Letters and digits in lower case. An underscore stands between two words, and in front of a
capital behind a small letter or a digit. `started` says that a word came before, `pending` that it
has ended, and `afterLower` that a small letter or a digit stands right in front. -/
def snakeFrom (started pending afterLower : Bool) : List Char → List Char
  | [] => []
  | c :: cs =>
    if isAlphanumeric c then
      (if pending || (isUppercase c && afterLower) then ['_'] else []) ++ lowerChar c ++
        snakeFrom true false (isLowercase c || c.isDigit) cs
    else snakeFrom started started false cs

theorem popUnderscores_of_ne {out : List Char} (h : out.getLast? ≠ some '_') :
    popUnderscores out = out := by
  rw [popUnderscores, dif_neg h]

theorem popUnderscores_concat (out : List Char) :
    popUnderscores (out ++ ['_']) = popUnderscores out := by
  rw [popUnderscores, dif_pos (by simp), List.dropLast_concat]

/-- What the loop has written, told from what is written for good: an underscore behind it shows that
a word has ended there. -/
structure Written (text : List Char) (started pending afterLower : Bool) : Prop where
  started_iff : started = true ↔ text ≠ []
  started_of_pending : pending = true → started = true
  fresh : pending = true → afterLower = false
  getLast? : text.getLast? ≠ some '_'

namespace Written

variable {text : List Char} {started pending afterLower : Bool} {c : Char}

/-- A letter or a digit, behind an underscore that stands there already or is written now. -/
theorem letter (h : Written text started pending afterLower) (hc : isAlphanumeric c = true) :
    addSnake (text ++ (if pending then ['_'] else []), afterLower) c =
        (text ++ ((if pending || (isUppercase c && afterLower) then ['_'] else []) ++ lowerChar c) ++
          (if false then ['_'] else []), isLowercase c || c.isDigit) ∧
      Written (text ++ ((if pending || (isUppercase c && afterLower) then ['_'] else []) ++ lowerChar c))
        true false (isLowercase c || c.isDigit) := by
  have hne := lowerChar_ne_nil c
  refine ⟨?_, by simp [hne], by simp, by simp, ?_⟩
  · rw [addSnake, if_pos hc]
    cases pending with
    | true => simp [h.fresh rfl]
    | false => cases hupper : isUppercase c && afterLower <;> simp
  · rw [← List.append_assoc, List.getLast?_append_of_ne_nil _ hne]
    intro hlast
    exact underscore_notMem_lowerChar hc (List.mem_of_getLast? hlast)

/-- Anything else ends a word, if there is one and it has not ended yet. -/
theorem other (h : Written text started pending afterLower) (hc : isAlphanumeric c = false) :
    addSnake (text ++ (if pending then ['_'] else []), afterLower) c =
        (text ++ (if started then ['_'] else []), false) ∧ Written text started started false := by
  refine ⟨?_, h.started_iff, id, fun _ => rfl, h.getLast?⟩
  rw [addSnake, if_neg (by simp [hc])]
  cases pending with
  | true => simp [h.started_of_pending rfl]
  | false =>
    cases started with
    | true => simp [h.started_iff.1 rfl, h.getLast?]
    | false =>
      have hnil : text = [] := by simpa using mt h.started_iff.2
      simp [hnil]

/-- From what is written for good on, the loop writes what the one pass does. -/
theorem popUnderscores_foldl (h : Written text started pending afterLower) (cs : List Char) :
    popUnderscores (cs.foldl addSnake (text ++ (if pending then ['_'] else []), afterLower)).1 =
      text ++ snakeFrom started pending afterLower cs := by
  induction cs generalizing text started pending afterLower with
  | nil =>
    have htext := popUnderscores_of_ne h.getLast?
    cases pending with
    | true => simp [snakeFrom, popUnderscores_concat, htext]
    | false => simp [snakeFrom, htext]
  | cons c cs ih =>
    rw [List.foldl_cons, snakeFrom]
    cases hc : isAlphanumeric c with
    | true =>
      obtain ⟨hstep, hwritten⟩ := h.letter hc
      rw [hstep, ih hwritten]
      simp
    | false =>
      obtain ⟨hstep, hwritten⟩ := h.other hc
      rw [hstep, ih hwritten]
      simp

end Written

theorem snake_eq (name : String) :
    snake name = String.ofList (snakeFrom false false false name.toList) := by
  have hwritten : Written [] false false false := ⟨by simp, by simp, by simp, by simp⟩
  rw [snake]
  exact congrArg String.ofList (hwritten.popUnderscores_foldl name.toList)

end Naming

end TypedQueries
