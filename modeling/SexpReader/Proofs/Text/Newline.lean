/-
# Texts without carriage returns

Line ends that are made uniform leave no carriage return, and where there is none nothing is
changed. So a text that was read once is not changed by reading it again. Nor does it matter
with which line ends such a text was written, as long as they are all the same.
-/

import SexpReader.Text.Newline
import SexpReader.Text.Quoted

namespace SexpReader.Text

theorem not_mem_unifyOnto (chars : List Char) {out : String} (hout : '\r' ∉ out.toList) :
    '\r' ∉ (unifyOnto chars out).toList := by
  have hpush {c : Char} {out : String} (hout : '\r' ∉ out.toList) (hc : c ≠ '\r') :
      '\r' ∉ (out.push c).toList := by
    rw [String.toList_push, List.mem_append, List.mem_singleton, not_or]
    exact ⟨hout, hc.symm⟩
  fun_induction unifyOnto chars out with
  | case1 out => exact hout
  | case2 chars out ih => exact ih (hpush hout (by decide))
  | case3 chars out hnext ih => exact ih (hpush hout (by decide))
  | case4 c chars out hpair hreturn ih => exact ih (hpush hout hreturn)

/-- No carriage return is left. -/
theorem not_mem_unifyNewlines (text : String) : '\r' ∉ (unifyNewlines text).toList :=
  not_mem_unifyOnto text.toList (by simp)

theorem unifyOnto_of_not_mem {chars : List Char} (h : '\r' ∉ chars) (out : String) :
    unifyOnto chars out = out ++ String.ofList chars := by
  fun_induction unifyOnto chars out with
  | case1 out => rw [String.ofList_nil, String.append_empty]
  | case2 chars out ih => exact absurd List.mem_cons_self h
  | case3 chars out hnext ih => exact absurd List.mem_cons_self h
  | case4 c chars out hpair hreturn ih =>
      rw [ih (List.not_mem_of_not_mem_cons h), String.push_eq_append, String.append_assoc,
        ← String.ofList_cons]

/-- A text without carriage returns stays as it is. -/
theorem unifyNewlines_of_not_mem {text : String} (h : '\r' ∉ text.toList) :
    unifyNewlines text = text := by
  rw [unifyNewlines, unifyOnto_of_not_mem h, String.empty_append, String.ofList_toList]

/-! ## Other line ends -/

/-- What may end a line in place of a line feed. -/
inductive LineEnd
  | carriageReturn
  | carriageReturnLineFeed
  deriving DecidableEq, Repr

namespace LineEnd

/-- The characters of a line end. -/
def chars : LineEnd → List Char
  | carriageReturn => ['\r']
  | carriageReturnLineFeed => ['\r', '\n']

/-- A text with every line feed written as the given line end. -/
def rewrite (lineEnd : LineEnd) (text : String) : String :=
  String.ofList (replaceChar '\n' lineEnd.chars text.toList)

end LineEnd

theorem not_mem_replaceChar {target : Char} {replacement : List Char} (h : target ∉ replacement)
    (chars : List Char) : target ∉ replaceChar target replacement chars := by
  rw [replaceChar, List.mem_flatMap]
  rintro ⟨c, -, hc⟩
  by_cases htarget : c = target
  · rw [if_pos htarget] at hc
    exact h hc
  · rw [if_neg htarget, List.mem_singleton] at hc
    exact htarget hc.symm

theorem unifyOnto_cons {c : Char} (h : c ≠ '\r') (chars : List Char) (out : String) :
    unifyOnto (c :: chars) out = unifyOnto chars (out.push c) := by
  rw [unifyOnto]
  · intro _ hreturn
    exact absurd hreturn h
  · exact h

/-- Where every line feed has been replaced, the replacement is read as a line feed. For a
carriage return alone it matters that no line feed is left to follow it. -/
theorem unifyOnto_lineEnd (lineEnd : LineEnd) (chars : List Char) (out : String) :
    unifyOnto (lineEnd.chars ++ replaceChar '\n' lineEnd.chars chars) out =
      unifyOnto (replaceChar '\n' lineEnd.chars chars) (out.push '\n') := by
  cases lineEnd with
  | carriageReturnLineFeed => rfl
  | carriageReturn =>
      have hnone : '\n' ∉ replaceChar '\n' ['\r'] chars := not_mem_replaceChar (by decide) chars
      rw [LineEnd.chars, List.singleton_append, unifyOnto]
      rintro more hmore
      rw [hmore] at hnone
      exact hnone List.mem_cons_self

theorem unifyOnto_replaceChar (lineEnd : LineEnd) {chars : List Char} (h : '\r' ∉ chars)
    (out : String) :
    unifyOnto (replaceChar '\n' lineEnd.chars chars) out = out ++ String.ofList chars := by
  induction chars generalizing out with
  | nil =>
      rw [String.ofList_nil, String.append_empty]
      rfl
  | cons c chars ih =>
      obtain ⟨hreturn, hrest⟩ := not_or.1 (mt List.mem_cons.2 h)
      have hnext : unifyOnto (replaceChar '\n' lineEnd.chars (c :: chars)) out =
          unifyOnto (replaceChar '\n' lineEnd.chars chars) (out.push c) := by
        by_cases hfeed : c = '\n'
        · subst hfeed
          exact unifyOnto_lineEnd lineEnd chars out
        · have hsplit : replaceChar '\n' lineEnd.chars (c :: chars) =
              c :: replaceChar '\n' lineEnd.chars chars := by
            rw [replaceChar, List.flatMap_cons, if_neg hfeed]
            rfl
          rw [hsplit, unifyOnto_cons (Ne.symm hreturn)]
      rw [hnext, ih hrest, String.push_eq_append, String.append_assoc, ← String.ofList_cons]

/-- A text without carriage returns comes back from whichever line end it is written with. -/
theorem unifyNewlines_rewrite (lineEnd : LineEnd) {text : String} (h : '\r' ∉ text.toList) :
    unifyNewlines (lineEnd.rewrite text) = text := by
  rw [unifyNewlines, LineEnd.rewrite, String.toList_ofList, unifyOnto_replaceChar lineEnd h,
    String.empty_append, String.ofList_toList]

end SexpReader.Text
