/-
# Processes and responses

A process that writes as it goes leaves behind what the response to its arguments says. Of
each of its steps it is shown that the value and the output are the same under every
threshold, and that the threshold only drops notices; sequences of steps inherit this. So
the log level has no influence but on which notices are shown.
-/

import Mathlib.Data.List.Basic
import SexpReader.Command.Process

namespace SexpReader.Command

namespace Process

variable {α : Type}

/-- What a process does under every threshold and from every console: it ends with the given
value, adds the given output, and shows those of the given notices that the threshold lets
through. -/
def Does (process : Process α) (value : α) (output : String) (notices : List Notice) : Prop :=
  ∀ threshold console, (process.run threshold).run console =
    (value, ⟨console.output ++ output,
      console.shown ++ notices.filter (Notice.isShown threshold)⟩)

namespace Does

theorem pure (value : α) : Does (Pure.pure value) value "" [] := by
  intro threshold console
  rw [String.append_empty, List.filter_nil, List.append_nil]
  rfl

/-- One process after another. -/
theorem andThen {first : Process Unit} {second : Process α} {value : α} {output more : String}
    {notices later : List Notice} (hfirst : first.Does () output notices)
    (hsecond : second.Does value more later) :
    Does (do first; second) value (output ++ more) (notices ++ later) := by
  intro threshold console
  have hrun : ((do first; second : Process α).run threshold).run console =
      (second.run threshold).run ((first.run threshold).run console).2 := rfl
  rw [hrun, hfirst, hsecond, List.filter_append, String.append_assoc, List.append_assoc]

theorem write (text : String) : (write text).Does () text [] := by
  intro threshold console
  rw [List.filter_nil, List.append_nil]
  rfl

theorem notify (notice : Notice) : (notify notice).Does () "" [notice] := by
  intro threshold console
  have hrun : ((Process.notify notice).run threshold).run console =
      ((if notice.isShown threshold then
        modify fun console => { console with shown := console.shown ++ [notice] }
        else Pure.pure () : Process Unit).run threshold).run console := rfl
  rw [hrun, String.append_empty, List.filter_cons, List.filter_nil]
  cases notice.isShown threshold with
  | true => rfl
  | false =>
      rw [if_neg Bool.false_ne_true, if_neg Bool.false_ne_true, List.append_nil]
      rfl

theorem notify_andThen (notice : Notice) {rest : Process α} {value : α} {output : String}
    {later : List Notice} (h : rest.Does value output later) :
    Does (do Process.notify notice; rest) value output (notice :: later) := by
  have hboth := (notify notice).andThen h
  rw [String.empty_append] at hboth
  exact hboth

theorem andThen_return {first : Process Unit} {output : String} {notices : List Notice}
    (h : first.Does () output notices) (value : α) :
    Does (do first; return value) value output notices := by
  have hboth := h.andThen (pure value)
  rw [String.append_empty, List.append_nil] at hboth
  exact hboth

theorem fail (notice : Notice) : (fail notice).Does 1 "" [notice] :=
  (notify notice).andThen_return 1

/-- A listing is written line by line. -/
theorem writeLines (lexemes : List (Lexeme Nat)) :
    Does (lexemes.forM fun lexeme => Process.write (listingLine lexeme)) () (listing lexemes)
      [] := by
  induction lexemes with
  | nil => exact pure ()
  | cons lexeme lexemes ih =>
      rw [listing, List.map_cons, String.join_cons]
      exact (write (listingLine lexeme)).andThen ih

end Does

end Process

open Process

/-- What a response leaves behind under a threshold. -/
def Response.transcript (response : Response) (threshold : Threshold) : Transcript :=
  ⟨response.status, response.output, response.notices.filter (Notice.isShown threshold)⟩

/-- A process that does what a response says. -/
def Process.Gives (process : Process Nat) (response : Response) : Prop :=
  process.Does response.status response.output response.notices

theorem Request.notify_writeProgram_gives (request : Request) (notice : Notice)
    (lexemes : List (Lexeme Nat)) :
    Gives (do notify notice; request.writeProgram lexemes)
      (request.answerProgram lexemes [notice]) := by
  rw [writeProgram, answerProgram]
  cases parse lexemes with
  | error error => exact Does.notify_andThen _ (Does.fail _)
  | ok program =>
      exact Does.notify_andThen _ <| Does.notify_andThen _ <| Does.notify_andThen _ <|
        (Does.write _).andThen_return 0

/-- Serving a request does what the answer to it says. -/
theorem Request.serve_gives (request : Request) (text : Except SourceFault String) :
    (request.serve text).Gives (request.answer text) := by
  cases text with
  | error fault => exact Does.fail _
  | ok text =>
      rw [serve, answer, answerText]
      cases tokenize text with
      | error error => exact Does.fail _
      | ok lexemes =>
          obtain ⟨source, format⟩ := request
          cases format with
          | source | json => exact notify_writeProgram_gives _ _ lexemes
          | lexemes =>
              exact Does.notify_andThen _ ((Does.writeLines lexemes).andThen_return 0)

theorem Process.Gives.transcript_eq {process : Process Nat} {response : Response}
    (h : process.Gives response) (threshold : Threshold) :
    process.transcript threshold = response.transcript threshold := by
  rw [Process.transcript, h threshold Console.empty, Response.transcript, Console.empty]
  simp

/-- The process of a command line leaves behind what its response says, with the notices that
the threshold lets through. -/
theorem invokeWith_eq_transcript (reading : InputReading) (surroundings : Surroundings)
    (setting : Option String) (arguments : List String) :
    invokeWith reading surroundings setting arguments =
      (runWith reading surroundings arguments).transcript (Threshold.ofSetting setting) := by
  rw [invokeWith, runWith]
  cases Request.ofArguments? arguments with
  | none =>
      have husage : Gives (Process.fail .usage) Response.usage := Does.fail .usage
      exact husage.transcript_eq _
  | some request => exact (request.serve_gives _).transcript_eq _

theorem invoke_eq_transcript (surroundings : Surroundings) (setting : Option String)
    (arguments : List String) :
    invoke surroundings setting arguments =
      (run surroundings arguments).transcript (Threshold.ofSetting setting) :=
  invokeWith_eq_transcript decodeSource surroundings setting arguments

section Invoke

variable (surroundings : Surroundings) (setting : Option String) (arguments : List String)

theorem invoke_status :
    (invoke surroundings setting arguments).status = (run surroundings arguments).status := by
  rw [invoke_eq_transcript, Response.transcript]

theorem invoke_output :
    (invoke surroundings setting arguments).output = (run surroundings arguments).output := by
  rw [invoke_eq_transcript, Response.transcript]

theorem invoke_shown :
    (invoke surroundings setting arguments).shown =
      (run surroundings arguments).notices.filter
        (Notice.isShown (Threshold.ofSetting setting)) := by
  rw [invoke_eq_transcript, Response.transcript]

end Invoke

/-! ## The log level -/

/-- What is shown under a threshold is shown under every lower one. -/
theorem Notice.isShown_of_le {low high : Threshold} (h : low ≤ high) {notice : Notice}
    (hshown : notice.isShown high = true) : notice.isShown low = true := by
  cases notice with
  | usage => rfl
  | message severity text =>
      simp only [isShown, Severity.isShown, decide_eq_true_eq] at hshown ⊢
      exact Nat.le_trans h hshown

/-- The lowest threshold lets everything through. -/
theorem Response.filter_isShown_zero (response : Response) :
    response.notices.filter (Notice.isShown 0) = response.notices := by
  rw [List.filter_eq_self]
  intro notice _
  cases notice with
  | usage => rfl
  | message severity text => exact decide_eq_true (Nat.zero_le severity.rank)

/-- The log level has no influence on the exit status and on the output. Of the notices of a
run in which all are shown it leaves exactly those of at least its own rank, so that a higher
level shows some of what a lower one shows; the usage line is shown under all of them. -/
theorem invoke_shown_eq_filter (surroundings : Surroundings) (arguments : List String)
    (setting other : Option String) :
    (invoke surroundings setting arguments).status =
        (invoke surroundings other arguments).status ∧
      (invoke surroundings setting arguments).output =
        (invoke surroundings other arguments).output ∧
      (invoke surroundings setting arguments).shown =
        (invoke surroundings (some "NOTSET") arguments).shown.filter
          (Notice.isShown (Threshold.ofSetting setting)) ∧
      (Threshold.ofSetting setting ≤ Threshold.ofSetting other →
        (invoke surroundings other arguments).shown.Sublist
          (invoke surroundings setting arguments).shown) ∧
      (Notice.usage ∈ (invoke surroundings setting arguments).shown ↔
        Notice.usage ∈ (invoke surroundings other arguments).shown) := by
  have hnotset : Threshold.ofSetting (some "NOTSET") = 0 := rfl
  refine ⟨?_, ?_, ?_, ?_, ?_⟩
  · rw [invoke_status, invoke_status]
  · rw [invoke_output, invoke_output]
  · rw [invoke_shown, invoke_shown, hnotset, Response.filter_isShown_zero]
  · intro hle
    rw [invoke_shown, invoke_shown]
    apply List.monotone_filter_right
    intro notice
    exact Notice.isShown_of_le hle
  · rw [invoke_shown, invoke_shown, List.mem_filter, List.mem_filter]
    rfl

/-- A program on the standard input, under a level of mixed case that shows one notice, and
under a higher one that shows none. -/
theorem invoke_shown_of_info :
    Threshold.ofSetting (some "Info") ≤ Threshold.ofSetting none ∧
      (invoke ⟨[0x28, 0x61, 0x29], []⟩ (some "Info") ["-"]).shown = [parsedNotice 1 "-"] ∧
      (invoke ⟨[0x28, 0x61, 0x29], []⟩ none ["-"]).shown.Sublist
        (invoke ⟨[0x28, 0x61, 0x29], []⟩ (some "Info") ["-"]).shown := by
  have hle : Threshold.ofSetting (some "Info") ≤ Threshold.ofSetting none := by decide
  have hshown : (invoke ⟨[0x28, 0x61, 0x29], []⟩ (some "Info") ["-"]).shown =
      [parsedNotice 1 "-"] := rfl
  obtain ⟨-, -, -, hsublist, -⟩ :=
    invoke_shown_eq_filter ⟨[0x28, 0x61, 0x29], []⟩ ["-"] (some "Info") none
  exact ⟨hle, hshown, hsublist hle⟩

end SexpReader.Command
