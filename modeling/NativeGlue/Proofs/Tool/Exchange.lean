import NativeGlue.Proofs.Datum.JsonText
import NativeGlue.Proofs.Datum.Shape
import NativeGlue.Tool.Exchange

set_option autoImplicit false

/-! # Commands and outcomes cross line by line

Whoever runs the tools sees every command as one line (`Command.newline_not_mem_line`) and never
takes one command for another (`Command.line_injective`). What comes back is on one line as well,
and is the outcome that was written (`Outcome.ofLine_line`). -/

namespace NativeGlue

open Datum

/-! ## Commands -/

namespace Command

theorem isJson_toDatum (c : Command) : c.toDatum.IsJson := by
  have hargs : (ofTexts c.args).IsJson := isJson_list_map fun _ _ => trivial
  have henv (entries : List (String × String)) :
      FieldsJson (entries.map fun e => (e.1, .text e.2)) := by
    induction entries with
    | nil => trivial
    | cons e entries ih => exact ⟨trivial, ih⟩
  exact ⟨trivial, hargs, henv _, isJson_ofOptional _, trivial⟩

/-- A command is asked for on one line. -/
theorem newline_not_mem_line (c : Command) : '\n' ∉ c.line.toList :=
  Json.newline_not_mem_write c.isJson_toDatum

theorem toDatum_injective {c c' : Command} (h : c.toDatum = c'.toDatum) : c = c' := by
  obtain ⟨program, args, env, dir⟩ := c
  obtain ⟨program', args', env', dir'⟩ := c'
  simp only [toDatum, Datum.record.injEq, Datum.text.injEq, List.cons.injEq, Prod.mk.injEq,
    and_true, true_and] at h
  obtain ⟨rfl, hargs, henv, hdir⟩ := h
  have hentry : Function.Injective fun e : String × String => (e.1, Datum.text e.2) := by
    rintro ⟨name, value⟩ ⟨name', value'⟩ heq
    obtain ⟨hname, hvalue⟩ := Prod.mk.inj heq
    exact Prod.ext hname (Datum.text.inj hvalue)
  have hpath : Function.Injective Path.text := by
    rintro ⟨p⟩ ⟨q⟩ rfl
    rfl
  -- lists of texts and optional texts are read back from their data
  obtain rfl : args = args' := by
    have hread := congrArg (asList? asText?) hargs
    rw [asList?_ofTexts, asList?_ofTexts] at hread
    exact Option.some.inj hread
  obtain rfl : dir = dir' := by
    have hread := congrArg (asOptional? asText?) hdir
    rw [asOptional?_ofOptional, asOptional?_ofOptional] at hread
    exact Option.map_injective hpath (Option.some.inj hread)
  obtain rfl : env = env' := congrArg KeyMap.mk (List.map_injective_iff.2 hentry henv)
  rfl

/-- **Different commands are asked for on different lines.** -/
theorem line_injective {c c' : Command} (h : c.line = c'.line) : c = c' := by
  have hread := Json.read?_write c.isJson_toDatum .compact
  rw [← line, h, line, Json.read?_write c'.isJson_toDatum] at hread
  exact (toDatum_injective (Option.some.inj hread)).symm

end Command

/-! ## Outcomes -/

namespace Outcome

/-- Whether the status of an outcome, if there is one, fits into 64 bits. -/
def IsWritable (o : Outcome) : Prop :=
  ∀ output, o = .ok output → ∀ n ∈ output.status, -9223372036854775808 ≤ n ∧ n < 9223372036854775808

theorem isJson_toDatum {o : Outcome} (ho : o.IsWritable) : o.toDatum.IsJson := by
  cases o with
  | error reason => exact ⟨trivial, trivial⟩
  | ok output =>
    have hstatus : ((output.status.map Datum.integer).getD .null).IsJson := by
      cases hnumber : output.status with
      | none => trivial
      | some n =>
        obtain ⟨hlow, hhigh⟩ := ho output rfl n hnumber
        exact ⟨hlow, by omega⟩
    exact ⟨hstatus, trivial, trivial, trivial⟩

theorem ofDatum?_toDatum (o : Outcome) : ofDatum? o.toDatum = some o := by
  cases o with
  | error reason =>
    rw [ofDatum?, toDatum, entries?_record (by simp) (by simp)]
    rfl
  | ok output =>
    have hstatus : asOptional? asInteger? ((output.status.map Datum.integer).getD .null)
        = some output.status := by
      cases output.status <;> rfl
    rw [ofDatum?, toDatum, entries?_record (by simp) (by simp)]
    simp [field?, required?, hstatus, asText?]

/-- **What comes of a command is read back from its line**, which is one line. -/
theorem ofLine_line {o : Outcome} (ho : o.IsWritable) :
    ofLine o.line = o ∧ '\n' ∉ o.line.toList := by
  refine ⟨?_, Json.newline_not_mem_write (isJson_toDatum ho)⟩
  rw [ofLine, line, Json.read?_write (isJson_toDatum ho), Option.bind_some, ofDatum?_toDatum,
    Option.getD_some]

end Outcome

end NativeGlue
