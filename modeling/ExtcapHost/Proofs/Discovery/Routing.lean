/-
Module: ExtcapHost.Proofs.Discovery.Routing
Purpose: Questions about an interface go to the first helper that offered it.
Main exports:
  Question, Question.ask, Advertised, Survey.Faithful.lookup_eq, question_reaches_first_owner
-/
import ExtcapHost.Proofs.Discovery.Survey
import ExtcapHost.Query

/-!
The name that a helper printed is looked up as it was printed.  So a question about a
name runs the helper of the first offer of that name, and since helpers were asked in the
order of their file names, that one has the smallest file name of all who offered it.
-/

namespace ExtcapHost

variable {σ : Type}

/-- What can be asked about an interface. -/
inductive Question where
  | linkTypes
  | arguments
deriving DecidableEq, Repr

namespace Question

/-- The flag that asks the question. -/
def flag : Question → String
  | .linkTypes => linkTypesFlag
  | .arguments => argumentsFlag

/-- Ask the owner of an interface a question. -/
def ask (question : Question) (host : HelperHost σ) (reader : AnswerReader) (registry : Registry)
    (name : String) (machine : σ) : Except HostError (Capabilities ⊕ List Argument) × σ :=
  match question with
  | .linkTypes =>
      let asked := queryLinkTypes host reader registry name machine
      (asked.1.map .inl, asked.2)
  | .arguments =>
      let asked := queryArguments host reader registry name machine
      (asked.1.map .inr, asked.2)

end Question

/-! ### Whom a question reaches -/

theorem askOwner_of_none {registry : Registry} {name : String}
    (absent : registry.lookup (some name) = none) (host : HelperHost σ) (flag : String)
    (machine : σ) :
    askOwner host registry name flag machine =
      (.error (.host (.query name (some "interface is not provided by any helper"))),
        machine) := by
  simp only [askOwner, absent]

/-- Whatever comes of it, the owner was run. -/
theorem askOwner_of_owner {registry : Registry} {name helper : String}
    (owner : registry.lookup (some name) = some helper) (host : HelperHost σ) (flag : String)
    (machine : σ) :
    (askOwner host registry name flag machine).2 =
      (runHelper host helper (queryCommand flag name) machine).2 := by
  rcases ran : runHelper host helper (queryCommand flag name) machine with ⟨answer, next⟩
  simp only [askOwner, owner, ran]
  split
  · rename_i failed
    cases failed
    rfl
  · rfl

theorem askOwner_recorded (host : HelperHost σ) (registry : Registry) (name flag : String)
    (machine : Recorded σ) :
    askOwner host registry name flag machine.machine =
      ((askOwner host.recorded registry name flag machine).1,
        (askOwner host.recorded registry name flag machine).2.machine) := by
  cases owner : registry.lookup (some name) with
  | none => simp only [askOwner, owner]
  | some helper =>
      have same := runHelper_recorded host helper (queryCommand flag name) machine
      rcases ran : runHelper host.recorded helper (queryCommand flag name) machine with
        ⟨answer, next⟩
      rw [ran] at same
      simp only [askOwner, owner, same, ran]
      split
      · rename_i failed
        cases failed
        rfl
      · rename_i other
        split
        · rename_i failed
          cases failed
          exact absurd rfl (other _ _ _)
        · rfl

namespace Question

theorem ask_machine (question : Question) (host : HelperHost σ) (reader : AnswerReader)
    (registry : Registry) (name : String) (machine : σ) :
    (question.ask host reader registry name machine).2 =
      (askOwner host registry name question.flag machine).2 := by
  cases question <;> rfl

/-- Recording the calls changes nothing. -/
theorem ask_recorded (question : Question) (host : HelperHost σ) (reader : AnswerReader)
    (registry : Registry) (name : String) (machine : Recorded σ) :
    question.ask host reader registry name machine.machine =
      ((question.ask host.recorded reader registry name machine).1,
        (question.ask host.recorded reader registry name machine).2.machine) := by
  have same := askOwner_recorded host registry name question.flag machine
  cases question with
  | linkTypes => simp only [ask, queryLinkTypes, flag] at same ⊢; simp only [same]
  | arguments => simp only [ask, queryArguments, flag] at same ⊢; simp only [same]

end Question

/-! ### Who offered a name -/

/-- The helper of that file ended well and offered the name. -/
def Advertised (calls : List Call) (directory file name : String) : Prop :=
  IsFileName file ∧ ∃ finished,
    .ran ⟨joinPath directory file, directory, ["--extcap-interfaces"]⟩ finished ∈ calls ∧
      finished.status = 0 ∧
      ∃ interface ∈ Interface.readAll (Text.decodeOutput finished.output), interface.call = name

theorem Call.offers_of_ran {call : Call} {offer : Discovered} (offered : offer ∈ call.offers) :
    ∃ invocation finished, call = .ran invocation finished ∧ finished.status = 0 ∧
      offer.helper = invocation.helper ∧
      ∃ interface ∈ Interface.readAll (Text.decodeOutput finished.output),
        interface.call = offer.name := by
  unfold offers at offered
  split at offered
  · rename_i invocation finished
    split at offered
    · rename_i well
      obtain ⟨interface, read, rfl⟩ := List.mem_map.mp offered
      exact ⟨invocation, finished, rfl, well, rfl, interface, read, rfl⟩
    · cases offered
  · cases offered

theorem Advertised.offered {calls : List Call} {directory file name : String}
    (advertised : Advertised calls directory file name) :
    ∃ call ∈ calls,
      call.invocation? = some ⟨joinPath directory file, directory, ["--extcap-interfaces"]⟩ ∧
      ∃ offer ∈ call.offers, offer.name = name := by
  obtain ⟨-, finished, ran, well, interface, read, named⟩ := advertised
  refine ⟨_, ran, rfl, interface.offeredBy (joinPath directory file), ?_, named⟩
  rw [Call.offers, if_pos well]
  exact List.mem_map.mpr ⟨interface, read, rfl⟩

/-- A name that is in no offer was advertised by nobody. -/
theorem not_advertised {calls : List Call} {name : String}
    (absent : (calls.flatMap Call.offers).find? (fun offer => offer.name = name) = none)
    (directory file : String) : ¬Advertised calls directory file name := by
  intro advertised
  obtain ⟨call, made, -, offer, offered, named⟩ := advertised.offered
  rw [List.find?_eq_none] at absent
  exact absent offer (List.mem_flatMap.mpr ⟨call, made, offered⟩) (by simpa using named)

/-- Calls and the files they were made for can be cut at the same place. -/
theorem cut_files {before after : List Call} {call : Call} {files : List String}
    {told : String → Option Invocation}
    (asked : (before ++ call :: after).map Call.invocation? = files.map told) :
    ∃ earlier file others, files = earlier ++ file :: others ∧ call.invocation? = told file ∧
      after.map Call.invocation? = others.map told := by
  rw [List.map_append, List.map_cons] at asked
  obtain ⟨earlier, rest, rfl, -, cut⟩ := List.map_eq_append_iff.mp asked.symm
  obtain ⟨file, others, rfl, first, later⟩ := List.map_eq_cons_iff.mp cut
  exact ⟨earlier, file, others, rfl, first.symm, later.symm⟩

/-- Whoever is asked the same under the same path is the same helper. -/
theorem file_eq_of_asked {directory file other : String} {arguments : List String}
    (proper : IsFileName file) (properOther : IsFileName other)
    (same : some (⟨joinPath directory file, directory, arguments⟩ : Invocation) =
      some ⟨joinPath directory other, directory, arguments⟩) : file = other := by
  simp only [Option.some.injEq, Invocation.mk.injEq] at same
  exact IsAbsolutePath.join_inj proper properOther same.1

/-- A helper that was asked later has a file name that stands later. -/
theorem lt_of_asked_later {directory file other : String} {arguments : List String}
    {others : List String} {after : List Call} {made : Call}
    (sorted : ∀ next ∈ others, file < next) (proper : ∀ next ∈ others, IsFileName next)
    (asked : after.map Call.invocation? = others.map fun next =>
      some ⟨joinPath directory next, directory, arguments⟩)
    (later : made ∈ after) (properOther : IsFileName other)
    (told : made.invocation? = some ⟨joinPath directory other, directory, arguments⟩) :
    file < other := by
  have known : made.invocation? ∈ after.map Call.invocation? := List.mem_map_of_mem later
  rw [asked] at known
  obtain ⟨next, among, toldNext⟩ := List.mem_map.mp known
  rw [told] at toldNext
  obtain rfl := file_eq_of_asked (proper next among) properOther toldNext
  exact sorted next among

/-- The first offer of a name was made by the helper with the smallest file name of all
that offered it. -/
theorem first_offer_advertised {calls : List Call} {files : List String}
    {directory name : String} {offer : Discovered} (sorted : files.Pairwise (· < ·))
    (proper : ∀ file ∈ files, IsFileName file)
    (asked : calls.map Call.invocation? = files.map fun file =>
      some ⟨joinPath directory file, directory, ["--extcap-interfaces"]⟩)
    (first : (calls.flatMap Call.offers).find? (fun offer => offer.name = name) = some offer) :
    ∃ file, Advertised calls directory file name ∧
      (∀ other, Advertised calls directory other name → file ≤ other) ∧
      offer.helper = joinPath directory file := by
  rw [List.find?_flatMap, List.findSome?_eq_some_iff] at first
  obtain ⟨before, call, after, rfl, found, passed⟩ := first
  obtain ⟨earlier, file, others, rfl, told, toldLater⟩ := cut_files asked
  have named : offer.name = name := by simpa using List.find?_some found
  have member : file ∈ earlier ++ file :: others := by simp
  obtain ⟨invocation, finished, rfl, well, helper, interface, read, call_named⟩ :=
    Call.offers_of_ran (List.mem_of_find?_eq_some found)
  cases told
  refine ⟨file, ⟨proper file member, finished, by simp, well, interface, read, ?_⟩, ?_, helper⟩
  · rw [call_named, named]
  · intro other advertised
    obtain ⟨made, among, toldOther, offerToo, inside, namedToo⟩ := advertised.offered
    -- No earlier call has offered the name, so the other helper was not asked before.
    have late : made ∉ before := by
      intro early
      have none := passed made early
      rw [List.find?_eq_none] at none
      exact none offerToo inside (by simpa using namedToo)
    have ordered := List.pairwise_cons.mp (List.pairwise_append.mp sorted).2.1
    rcases List.mem_append.mp among with early | rest
    · exact absurd early late
    · rcases List.mem_cons.mp rest with rfl | behind
      · obtain rfl := file_eq_of_asked (proper file member) advertised.1 toldOther
        exact String.le_refl file
      · have properLater : ∀ next ∈ others, IsFileName next := by
          intro next nextAmong
          exact proper next (by simp [nextAmong])
        have greater : file < other := lt_of_asked_later ordered.1 properLater toldLater behind
          advertised.1 toldOther
        apply String.not_lt.mp
        exact String.lt_asymm greater

/-- After a search, the owner of a name is the helper of the first offer of it. -/
theorem Survey.Faithful.lookup_eq {survey : Survey (Recorded σ)} {directory : String}
    {executables : List String} (faithful : survey.Faithful directory executables)
    (name : String) :
    survey.registry.lookup (some name) =
      ((survey.machine.calls.flatMap Call.offers).find? fun offer => offer.name = name).map
        fun offer => offer.helper := by
  have written : survey.registry =
      .ofRecords (firstOffers (survey.machine.calls.flatMap Call.offers)) :=
    congrArg Registry.mk faithful.registered
  rw [written]
  by_cases filled : name = ""
  · have none : ((survey.machine.calls.flatMap Call.offers).find? fun offer =>
        offer.name = name) = none := by
      rw [List.find?_eq_none]
      intro offer among
      obtain ⟨call, -, offered⟩ := List.mem_flatMap.mp among
      have nonempty := Call.name_ne_empty offered
      simpa [filled] using nonempty
    rw [none, filled]
    rfl
  · rw [Registry.lookup_ofRecords filled, find?_firstOffers]

/-- A question about a name that nobody offered reaches nobody. -/
theorem Question.ask_of_none {registry : Registry} {name : String}
    (absent : registry.lookup (some name) = none) (question : Question) (host : HelperHost σ)
    (reader : AnswerReader) (machine : Recorded σ) :
    (question.ask host.recorded reader registry name machine).2.calls = machine.calls := by
  rw [ask_machine, askOwner_of_none absent]

/-- A question about a name reaches its owner, and is one call. -/
theorem Question.ask_of_owner {registry : Registry} {directory file name : String}
    (absolute : IsAbsolutePath directory) (proper : IsFileName file)
    (owner : registry.lookup (some name) = some (joinPath directory file)) (question : Question)
    (host : HelperHost σ) (reader : AnswerReader) (machine : Recorded σ) :
    ∃ call : Call,
      call.invocation? =
        some ⟨joinPath directory file, directory, [question.flag, "--extcap-interface", name]⟩ ∧
      (question.ask host.recorded reader registry name machine).2.calls =
        machine.calls ++ [call] := by
  rcases ended : host.run (entryInvocation directory file (queryCommand question.flag name))
    machine.machine with ⟨outcome, next⟩
  have ran := runHelper_of_run absolute proper ended
  refine ⟨_, Call.ofRun_invocation? _ outcome, ?_⟩
  rw [ask_machine, askOwner_of_owner owner, ran]
  rfl

/-- After a search of a directory, a question about any name runs no helper if none that
ended well has offered the name, and else runs one helper once: that with the smallest
file name of those that did.  That the registry stays as the search has left it is not said
here: a question reads it, and gives back an answer and a machine only. -/
theorem question_reaches_first_owner {host : HelperHost σ} (lawful : host.Lawful)
    {directory path : String} (clean : holdsZero directory = false)
    (located : host.absolute directory = .ok path) (before : Registry) (machine : σ)
    (question : Question) (name : String) (later : Recorded σ) :
    let survey := discover host.recorded .sentences directory before (.blank machine)
    let asked := question.ask host.recorded .sentences survey.registry name later
    survey.plain = discover host .sentences directory before machine ∧
      question.ask host .sentences survey.registry name later.machine =
        (asked.1, asked.2.machine) ∧
      ((asked.2.calls = later.calls ∧
          ∀ file, ¬Advertised survey.machine.calls path file name) ∨
        ∃ file call, Advertised survey.machine.calls path file name ∧
          (∀ other, Advertised survey.machine.calls path other name → file ≤ other) ∧
          call.invocation? =
            some ⟨joinPath path file, path, [question.flag, "--extcap-interface", name]⟩ ∧
          asked.2.calls = later.calls ++ [call]) := by
  intro survey asked
  refine ⟨(discover_recorded host .sentences directory before (.blank machine)).symm,
    question.ask_recorded host .sentences survey.registry name later, ?_⟩
  cases read : host.entries machine path with
  | error fault =>
      left
      have none : survey = ⟨.ok [], .empty, [], .blank machine⟩ :=
        discover_of_fault lawful clean located read before
      constructor
      · apply question.ask_of_none
        rw [none]
        unfold Registry.lookup
        split <;> rfl
      · rw [none]
        exact not_advertised rfl path
  | ok listing =>
      have faithful : survey.Faithful path (host.executables machine path listing) :=
        discover_of_entries lawful clean located read before
      have owner := faithful.lookup_eq name
      cases first : (survey.machine.calls.flatMap Call.offers).find? fun offer =>
        offer.name = name with
      | none =>
          left
          rw [first] at owner
          constructor
          · exact question.ask_of_none owner host .sentences later
          · exact not_advertised first path
      | some offer =>
          right
          obtain ⟨files, sorted, listed, ran⟩ := faithful.asked
          have proper : ∀ file ∈ files, IsFileName file := by
            intro file among
            have proper := (lawful.listed read).executables host machine path
            exact proper.named file ((listed file).mp among)
          obtain ⟨file, advertised, smallest, helper⟩ :=
            first_offer_advertised sorted proper ran first
          rw [first, Option.map_some, helper] at owner
          obtain ⟨call, told, called⟩ := question.ask_of_owner
            (lawful.located_isAbsolute located) advertised.1 owner host .sentences later
          exact ⟨file, call, advertised, smallest, told, called⟩

/-- Both helpers of the small directory offer the one interface. -/
theorem small_advertised {file : String} :
    Advertised (discover smallHost.recorded .sentences "extcap" .empty (.blank ())).machine.calls
      "/opt/extcap" file "lo0" ↔ file = "first" ∨ file = "second" := by
  rw [small_calls]
  constructor
  · rintro ⟨proper, finished, ran, -⟩
    have first : joinPath "/opt/extcap" "first" = "/opt/extcap/first" := rfl
    have second : joinPath "/opt/extcap" "second" = "/opt/extcap/second" := rfl
    simp only [List.map_cons, List.map_nil, List.mem_cons, Call.ran.injEq, Invocation.mk.injEq,
      ← first, ← second, List.not_mem_nil, or_false] at ran
    rcases ran with ⟨⟨same, -⟩, -⟩ | ⟨⟨same, -⟩, -⟩
    · exact Or.inl (IsAbsolutePath.join_inj proper (by decide) same)
    · exact Or.inr (IsAbsolutePath.join_inj proper (by decide) same)
  · have read : ⟨"lo0", "lo0"⟩ ∈ Interface.readAll (Text.decodeOutput smallAnswer) := by
      rw [small_answer_read]
      exact .head _
    rintro (rfl | rfl)
    · exact ⟨by decide, ⟨0, smallAnswer⟩, .head _, rfl, ⟨"lo0", "lo0"⟩, read, rfl⟩
    · exact ⟨by decide, ⟨0, smallAnswer⟩, .tail _ (.head _), rfl, ⟨"lo0", "lo0"⟩, read, rfl⟩

/-- After the search of the small directory, a question about the interface that both
helpers offer reaches the first one. -/
theorem small_questions_reach_first :
    let survey := discover smallHost.recorded .sentences "extcap" .empty (.blank ())
    let asked := Question.linkTypes.ask smallHost.recorded .sentences survey.registry "lo0"
      survey.machine
    smallHost.Lawful ∧ ∃ call : Call,
      call.invocation? = some ⟨"/opt/extcap/first", "/opt/extcap",
        ["--extcap-dlts", "--extcap-interface", "lo0"]⟩ ∧
      asked.2.calls = survey.machine.calls ++ [call] := by
  intro survey asked
  have located : smallHost.absolute "extcap" = .ok "/opt/extcap" := rfl
  have reached := question_reaches_first_owner smallHost_lawful (by decide) located .empty ()
    .linkTypes "lo0" survey.machine
  refine ⟨smallHost_lawful, ?_⟩
  rcases reached.2.2 with ⟨-, nobody⟩ | ⟨file, call, advertised, smallest, told, called⟩
  · exact absurd (small_advertised.mpr (Or.inl rfl)) (nobody "first")
  · have first := smallest "first" (small_advertised.mpr (Or.inl rfl))
    rcases small_advertised.mp advertised with rfl | rfl
    · exact ⟨call, told, called⟩
    · exact absurd first (by decide)

end ExtcapHost
