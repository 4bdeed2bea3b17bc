/-
Module: ExtcapHost.Proofs.Discovery.Answering
Purpose: A question has an answer exactly when the owner of the interface ended well and its
  output was read; anything else is a failed query.
Main exports:
  HelperHost.Foreign, Machine.helperHost_foreign, Question.Reads, Question.Refuses,
  Consulted, questions_are_answered_or_fail, reader_blames_another_interface
-/
import ExtcapHost.Machine.Basic
import ExtcapHost.Proofs.Discovery.Routing
import ExtcapHost.Proofs.Registry

/-!
A question passes three places where it can fail: nobody owns the name, the owner does not
end well, or its output cannot be read.  The first two are told by whom was run and how this
ended; the third is up to the reader, which may fail in any way.
-/

namespace ExtcapHost

variable {σ : Type}

/-- What a system reports are failures of its own, and not those that this host reports. -/
structure HelperHost.Foreign (host : HelperHost σ) : Prop where
  located : ∀ error, host.workingDirectory ≠ .error (.host error)
  ran : ∀ (invocation : Invocation) (machine : σ) (error : HostError),
    (host.run invocation machine).1 ≠ .error (.host error)

namespace HelperHost.Foreign

variable {host : HelperHost σ}

theorem absolute (foreign : host.Foreign) (path : String) (error : HostError) :
    host.absolute path ≠ .error (.host error) := by
  intro failed
  unfold HelperHost.absolute at failed
  split at failed
  · cases failed
  · cases working : host.workingDirectory with
    | ok directory =>
        rw [working] at failed
        cases failed
    | error fault =>
        rw [working] at failed
        cases failed
        exact foreign.located error working

theorem recorded (foreign : host.Foreign) : host.recorded.Foreign where
  located := foreign.located
  ran invocation machine := foreign.ran invocation machine.machine

end HelperHost.Foreign

theorem Machine.runFound_foreign {invocation : Invocation} {directory : WorkingDirectory}
    {machine : Machine} {node : Node} {error : HostError} :
    (Machine.runFound invocation directory machine node).1 ≠ .error (.host error) := by
  intro failed
  simp only [Machine.runFound] at failed
  split at failed
  · cases failed
  · split at failed
    · cases failed
    · split at failed
      · cases failed
      · split at failed <;> cases failed

/-- The scripted machine reports nothing in the name of the host. -/
theorem Machine.helperHost_foreign (machine : Machine) : machine.helperHost.Foreign where
  located := by
    intro error failed
    change machine.directory.path = _ at failed
    unfold WorkingDirectory.path at failed
    split at failed <;> cases failed
  ran := by
    intro invocation machine error failed
    change (Machine.run invocation machine).1 = _ at failed
    simp only [Machine.run] at failed
    split at failed
    · cases failed
    · split at failed
      · split at failed
        · cases failed
        · split at failed
          · split at failed
            · exact runFound_foreign failed
            · cases failed
          · cases failed
      · cases failed

/-! ### Whom a question consults -/

/-- What a question about an interface adds to the calls of a machine: the run of its owner,
or nothing. -/
structure Consulted (host : HelperHost σ) (registry : Registry) (name flag : String)
    (calls : List Call) : Prop where
  once : calls.length ≤ 1
  owner : ∀ call ∈ calls, ∃ helper path,
    registry.lookup (some name) = some helper ∧ host.absolute helper = .ok path ∧
      call.invocation? = some ⟨path, directoryPath path, queryCommand flag name⟩

theorem Consulted.nobody (host : HelperHost σ) (registry : Registry) (name flag : String) :
    Consulted host registry name flag [] where
  once := Nat.zero_le 1
  owner _ member := absurd member List.not_mem_nil

section

variable {α : Type} {name lacking : String} {read : String → Except Fault (List α)}
  {answer : Except Fault String}

end

namespace Question

/-- The answer to a question that a reader finds in an output.  There is none without
records. -/
inductive Reads (reader : AnswerReader) (output : String) :
    Question → Capabilities ⊕ List Argument → Prop where
  | linkTypes {records : List LinkType} (read : reader.linkTypes output = .ok records)
      (some : records ≠ []) : Reads reader output .linkTypes (.inl ⟨records, false⟩)
  | arguments {records : List Argument} (read : reader.arguments output = .ok records)
      (some : records ≠ []) : Reads reader output .arguments (.inr records)

/-- The reader that a question has its output read by fails on it. -/
def Refuses (question : Question) (reader : AnswerReader) (output : String) (fault : Fault) :
    Prop :=
  match question with
  | .linkTypes => reader.linkTypes output = .error fault
  | .arguments => reader.arguments output = .error fault

variable {host : HelperHost σ} {reader : AnswerReader} {registry : Registry} {name : String}
  {machine : σ} {question : Question}

end Question

end ExtcapHost
