import ControlPlane.Proofs.Text.Quoted
import ControlPlane.Report

/-!
# The report of a failed call

The code and the message of a failure are the server's choice, and the message may be any text. What
is shown of them is one line between line feeds, whatever they are:

* `Code.isAlpha_of_mem_name`, `Code.name_injective` -- a code has a word of letters of its own;
* `shown_body_failed` -- every character of the line shows;
* `body_failed_injective` -- the line tells the code and the message;
* `failed_text_line` -- **a failure is shown as one line that tells its code and its message.**
-/

namespace ControlPlane

open Text

/-! ## 1. Codes -/

namespace Code

theorem isAlpha_of_mem_name (code : Code) : ∀ c ∈ code.name.toList, c.isAlpha = true := by
  cases code <;> decide

theorem shown_of_mem_name (code : Code) : ∀ c ∈ code.name.toList, isHidden c = false := by
  cases code <;> decide

/-- The codes have names of their own. -/
theorem name_injective {a b : Code} (same : a.name = b.name) : a = b := by
  revert same
  cases a <;> cases b <;> decide

end Code

/-! ## 2. The line -/

namespace Report

/-- The characters of the line. -/
theorem toList_body_failed (s : Status) :
    ((Report.failed s).body false).toList =
      "gRPC Failed: code=".toList ++
        (s.code.name.toList ++ ' ' :: ("message=".toList ++ (quoted s.message).toList)) := by
  have words : heading false .red "gRPC Failed:" ++ " code=" = "gRPC Failed: code=" := rfl
  have between : " message=".toList = ' ' :: "message=".toList := rfl
  rw [body, words, String.toList_append, String.toList_append, String.toList_append, between,
    List.append_assoc, List.append_assoc]
  rfl

/-- **Every character of the line shows.** -/
theorem shown_body_failed (s : Status) :
    ∀ c ∈ ((Report.failed s).body false).toList, isHidden c = false := by
  have before : ∀ c ∈ "gRPC Failed: code=".toList, isHidden c = false := by decide
  have between : ∀ c ∈ "message=".toList, isHidden c = false := by decide
  intro c member
  rw [toList_body_failed, List.mem_append, List.mem_append, List.mem_cons, List.mem_append] at member
  rcases member with first | name | rfl | second | message
  · exact before c first
  · exact s.code.shown_of_mem_name c name
  · decide
  · exact between c second
  · exact shown_quoted s.message c message

/-- **The line tells the code and the message.** -/
theorem body_failed_injective {s t : Status}
    (same : (Report.failed s).body false = (Report.failed t).body false) :
    s.code = t.code ∧ s.message = t.message := by
  have chars := congrArg String.toList same
  rw [toList_body_failed, toList_body_failed] at chars
  have blank : Char.isAlpha ' ' = false := by decide
  obtain ⟨names, behind⟩ := run_cut s.code.isAlpha_of_mem_name t.code.isAlpha_of_mem_name
    (.cons blank _) (.cons blank _) (List.append_cancel_left chars)
  have messages := List.append_cancel_left (List.cons.inj behind).2
  exact ⟨Code.name_injective (String.toList_inj.mp names),
    quoted_injective (String.toList_inj.mp messages)⟩

end Report

/-- **A failure is shown as one line that tells its code and its message.** Whatever they are, the
    text of the report is an empty line and one line: between its two line feeds every character
    shows, and none is a control character. Reports have the same text only for failures with the
    same code and the same message. -/
theorem failed_text_line (s : Status) :
    (∃ line : String, (Report.failed s).text false = "\n" ++ line ++ "\n" ∧ line ≠ "" ∧
      ∀ c ∈ line.toList, isHidden c = false ∧ ¬ IsControl c) ∧
    ∀ t : Status, (Report.failed t).text false = (Report.failed s).text false ↔
      t.code = s.code ∧ t.message = s.message := by
  refine ⟨⟨(Report.failed s).body false, rfl, ?_, ?_⟩, fun t => ⟨fun same => ?_, ?_⟩⟩
  · intro empty
    have chars := Report.toList_body_failed s
    rw [empty] at chars
    cases chars
  · intro c member
    have shown := Report.shown_body_failed s c member
    exact ⟨shown, not_isControl_of_shown shown⟩
  · refine Report.body_failed_injective ?_
    have chars := congrArg String.toList same
    simp only [Report.text, String.toList_append] at chars
    exact String.toList_inj.mp (List.append_cancel_left (List.append_cancel_right chars))
  · rintro ⟨code, message⟩
    simp only [Report.text, Report.body, code, message]

end ControlPlane
