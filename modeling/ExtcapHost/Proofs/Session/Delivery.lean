/-
Module: ExtcapHost.Proofs.Session.Delivery
Purpose: What an operator tells reaches the helper as it was told.
Main exports:
  toldWords, flatMap_argumentWords, Crew.startEach_waiting, Crew.deedsFor_start,
  arguments_reach_helper
-/
import ExtcapHost.Proofs.OperatorArgument
import ExtcapHost.Proofs.Session.Attribution
import ExtcapHost.Proofs.Session.Invariant

/-!
On their way to a helper the arguments are read into a table, the table is copied into an
entry, the entry goes through its stages, and its table is written out as words again.  An
empty flag would be skipped on the way, but none comes of an argument that is accepted.  So
the words are those that the operator has told, whatever stands in the session besides.
-/

namespace ExtcapHost

variable {σ : Type}

/-! ### Words -/

/-- The words for what was told, one flag after the other: each flag where it was told first,
and behind it the value that it was told with last, unless it was told without one then. -/
def toldWords (told : CaptureArguments) : List String :=
  (Ordered.keys told).eraseDups.flatMap fun flag =>
    flag :: (Ordered.get? flag told.reverse).join.toList

theorem argumentWords_of_named {flag : String} (named : flag ≠ "") (value : Option String) :
    argumentWords (flag, value) = flag :: value.toList := by
  cases value <;> simp [argumentWords]

theorem OperatorArgument.IsFlag.ne_empty {flag : String} (isFlag : IsFlag flag) : flag ≠ "" := by
  rintro rfl
  obtain ⟨c, inside, -⟩ := isFlag.named
  cases inside

/-- The table of what was told is written out as it was told. -/
theorem flatMap_argumentWords {texts : List String} {told : CaptureArguments}
    (means : List.Forall₂ OperatorArgument.Means texts told) :
    (Ordered.ofPairs told).flatMap argumentWords = toldWords told := by
  have named : ∀ pair ∈ Ordered.ofPairs told, argumentWords pair = pair.1 :: pair.2.toList := by
    intro pair member
    obtain ⟨text, meant⟩ :=
      (OperatorArgument.means_of_forall₂ means).2 pair (Ordered.mem_ofPairs member)
    exact argumentWords_of_named meant.isFlag.ne_empty pair.2
  have looked := Ordered.flatMap_keys (Ordered.nodup_keys_ofPairs told)
    fun flag value => flag :: value.join.toList
  simp only [Ordered.keys_ofPairs, Ordered.get?_ofPairs] at looked
  rw [toldWords, looked]
  exact List.flatMap_congr named

/-! ### The start of one entry -/

namespace Crew

variable (crew : Crew σ) {entry : Entry}

/-- Starting a waiting entry makes a channel for it and starts its command on the path of
that channel; if no channel can be made, that is the end of the pass, and the entry stays
as it is. -/
theorem startEach_waiting (waiting : entry.waiting = true) (desk : Desk (Recorded σ)) :
    let pass := crew.recorded.startEach [entry] desk
    (∃ channel outcome, pass.desk.machine.deeds = desk.machine.deeds ++
        [.made channel, .ofStart (entry.command channel.path) outcome]) ∨
      (pass.result ≠ .ok true ∧ pass.entries = [entry] ∧
        ∃ fault, pass.desk.machine.deeds = desk.machine.deeds ++ [.notMade fault]) := by
  intro pass
  rcases made : crew.maker.create desk.machine.machine with ⟨outcome, next⟩
  have madeToo : crew.recorded.maker.create desk.machine =
      (outcome, desk.machine.after next (.ofCreation outcome)) := by
    rw [recorded_maker, ChannelMaker.recorded_create, made]
  cases outcome with
  | error fault =>
      right
      have deeds := desk.machine.after_deeds_of_deed next (.notMade fault) rfl
      rcases fault.foreign_or_own with foreign | ⟨error, rfl⟩
      · simp only [pass, startEach_of_failed waiting foreign madeToo]
        exact ⟨nofun, trivial, fault, deeds⟩
      · simp only [pass, startEach_of_refused waiting madeToo]
        exact ⟨nofun, trivial, .host error, deeds⟩
  | ok channel =>
      left
      have deeds := desk.machine.after_deeds_of_deed next (.made channel) rfl
      obtain ⟨later, launched⟩ := launch_books crew (entry.opened channel) channel
        { desk with machine := desk.machine.after next (.made channel) }
      have told : ∀ call tracked, later.books = ⟨(desk.machine.after next (.made channel)).deeds ++
          [call], tracked⟩ → later.machine.deeds = desk.machine.deeds ++ [.made channel, call] := by
        intro call tracked booked
        have same : later.machine.deeds = _ := congrArg Books.deeds booked
        rw [same, deeds, List.append_assoc]
        rfl
      rcases launched with ⟨child, launched, booked⟩ | ⟨fault, launched | stranded, booked⟩
      · simp only [pass, startEach_of_launched waiting madeToo launched]
        exact ⟨channel, .ok child, told _ _ booked⟩
      · simp only [pass, startEach_of_launched waiting madeToo launched]
        exact ⟨channel, .error fault, told _ _ booked⟩
      · simp only [pass, startEach_of_stranded waiting madeToo stranded]
        exact ⟨channel, .error fault, told _ _ booked⟩

theorem start_result (crew : Crew σ) (session : Session) (desk : Desk σ) :
    (crew.start session desk).1 = (crew.startEach session.entries desk).result := by
  by_cases completed : (crew.startEach session.entries desk).result = .ok true
  · rw [start_of_completed completed, completed]
  · rw [start_of_ended completed]

/-- What a start does for a waiting entry: everything, or nothing that outlasts the start,
which is not complete then. -/
theorem deedsFor_start {session : Session} {index : Nat}
    (present : session.entries[index]? = some entry) (waiting : entry.waiting = true)
    (desk : Desk (Recorded σ)) :
    let deeds := crew.deedsFor session desk .start index
    (∃ channel outcome,
        deeds = [.made channel, .ofStart (entry.command channel.path) outcome]) ∨
      ((crew.recorded.start session desk).1 ≠ .ok true ∧
        (deeds = [] ∨ ∃ fault, deeds = [.notMade fault])) := by
  intro deeds
  obtain ⟨inside, there⟩ := List.getElem?_eq_some_iff.mp present
  have cut : session.entries =
      session.entries.take index ++ ([entry] ++ session.entries.drop (index + 1)) := by
    rw [List.singleton_append, ← there, List.getElem_cons_drop, List.take_append_drop]
  have upTo : session.entries.take (index + 1) = session.entries.take index ++ [entry] := by
    rw [List.take_succ_eq_append_getElem inside, there]
  have done : ∀ count, crew.deedsUpTo session desk .start count =
      (crew.recorded.startEach (session.entries.take count) desk).desk.machine.deeds := by
    intro count
    rw [← crew.recorded.start_desk ⟨session.entries.take count⟩]
    rfl
  have grown := crew.deedsUpTo_succ session desk .start index
  rw [done, done, upTo] at grown
  have ordered := crew.recorded.startEach_oneByOne
  have whole := ordered.append (session.entries.take index)
    ([entry] ++ session.entries.drop (index + 1)) desk
  rw [← cut] at whole
  rw [start_result]
  rcases ordered.append (session.entries.take index) [entry] desk with
    ⟨went, both⟩ | ⟨ended, both⟩
  · obtain ⟨-, goesOn⟩ := whole.resolve_right fun other => other.1 went
    rw [both] at grown
    rcases startEach_waiting crew waiting
      (crew.recorded.startEach (session.entries.take index) desk).desk with
      ⟨channel, outcome, served⟩ | ⟨halted, -, fault, served⟩
    · rw [served] at grown
      exact .inl ⟨channel, outcome, (List.append_cancel_left grown).symm⟩
    · rw [served] at grown
      refine .inr ⟨?_, .inr ⟨fault, (List.append_cancel_left grown).symm⟩⟩
      obtain ⟨-, rest⟩ := (ordered.append [entry] (session.entries.drop (index + 1)) _).resolve_left
        fun other => halted other.1
      rw [goesOn, rest]
      exact halted
  · obtain ⟨-, stays⟩ := whole.resolve_left fun other => ended other.1
    rw [both] at grown
    refine .inr ⟨?_, .inl (List.append_right_eq_self.mp grown.symm)⟩
    rw [stays]
    exact ended

end Crew

/-- The interface of a registered helper is added as a new entry behind the others. -/
theorem addInterface_of_owner {registry : Registry} {name owner : String}
    (registered : registry.lookup (some name) = some owner) (path : owner ≠ "")
    (session : Session) (arguments : CaptureArguments) (desk : Desk σ) :
    addInterface registry session name arguments desk =
      (.ok (some session.size), ⟨session.entries ++ [.configured name owner arguments path]⟩,
        desk) := by
  simp only [addInterface, registered, Session.addBacked, Entry.backed_of_path path]
  rfl

/-- Arguments that are accepted make an entry of a registered interface.  Wherever that entry
stands when its session is started, among whatever other entries, it is served by a new
channel and by a start of the helper with the words that were told, each flag once and with
the value that came last.  It goes without only if the start is not complete: then no
channel could be made for it, or nothing was tried for it. -/
theorem arguments_reach_helper {texts : List String} {arguments : CaptureArguments}
    (accepted : OperatorArgument.readAll texts = .ok arguments) {registry : Registry}
    {name owner : String} (registered : registry.lookup (some name) = some owner)
    (path : owner ≠ "") (before : Session) (desk : Desk σ) :
    let entry : Entry := .configured name owner arguments path
    addInterface registry before name arguments desk =
        (.ok (some before.size), ⟨before.entries ++ [entry]⟩, desk) ∧
      ∃ told, List.Forall₂ OperatorArgument.Means texts told ∧
        ∀ (crew : Crew σ) (session : Session) (index : Nat) (desk : Desk (Recorded σ)),
          session.entries[index]? = some entry →
            let deeds := crew.deedsFor session desk .start index
            (∃ channel outcome, deeds = [.made channel,
                .ofStart ([owner, "--capture", "--extcap-interface", name, "--fifo",
                  channel.path] ++ toldWords told) outcome]) ∨
              ((crew.recorded.start session desk).1 ≠ .ok true ∧
                (deeds = [] ∨ ∃ fault, deeds = [.notMade fault])) := by
  intro entry
  obtain ⟨told, means, rfl⟩ := OperatorArgument.readAll_eq_ok_iff.mp accepted
  refine ⟨addInterface_of_owner registered path before _ desk, told, means, ?_⟩
  intro crew session index desk present
  have command : ∀ channel, entry.command channel =
      [owner, "--capture", "--extcap-interface", name, "--fifo", channel] ++ toldWords told := by
    intro channel
    rw [← flatMap_argumentWords means]
    rfl
  have served := crew.deedsFor_start present rfl desk
  simp only [command] at served
  exact served

/-- A machine that makes one channel after the other and starts everything. -/
def willingCrew : Crew Nat where
  maker :=
    { create := fun made => (.ok ⟨"/tmp/fifo" ++ toString made, none⟩, made + 1)
      release := fun _ _ made => (.ok (), made) }
  kernel :=
    { spawn := fun _ made => (.ok ⟨1000 + made, made⟩, made)
      poll := fun _ made => (none, made)
      status := fun _ _ => .alive }

/-- A value that is told again is replaced by the last one, though that is empty, and a flag
without a value stays one; another entry of the session has a helper of its own. -/
theorem told_twice_delivered :
    let texts := ["delay=5", " -v ", "--delay="]
    let entry : Entry := .configured "lo0" "/opt/sniffer" [("--delay", some ""), ("-v", none)]
      (by decide)
    let other : Entry := .configured "lo1" "/opt/other" [] (by decide)
    OperatorArgument.readAll texts = .ok entry.arguments ∧
      ∃ channel outcome,
        willingCrew.deedsFor ⟨[other, .native "eth0", entry]⟩ ⟨.empty, [], .blank 0⟩ .start 2 =
          [.made channel, .ofStart ["/opt/sniffer", "--capture", "--extcap-interface", "lo0",
            "--fifo", channel.path, "--delay", "", "-v"] outcome] := by
  intro texts entry other
  have accepted : OperatorArgument.readAll texts = .ok entry.arguments := by decide
  have registered : (Registry.mk [(some "lo0", "/opt/sniffer")]).lookup (some "lo0") =
      some "/opt/sniffer" := rfl
  obtain ⟨-, told, means, delivered⟩ := arguments_reach_helper accepted registered (by decide)
    .empty (⟨.empty, [], 0⟩ : Desk Nat)
  have meant : List.Forall₂ OperatorArgument.Means texts
      [("--delay", some "5"), ("-v", none), ("--delay", some "")] :=
    .cons (OperatorArgument.means_of_read (by decide))
      (.cons (OperatorArgument.means_of_read (by decide))
        (.cons (OperatorArgument.means_of_read (by decide)) .nil))
  have unique : Relator.RightUnique OperatorArgument.Means :=
    fun _ _ _ one two => one.unique two
  obtain rfl := unique.forall₂ means meant
  have words : toldWords [("--delay", some "5"), ("-v", none), ("--delay", some "")] =
      ["--delay", "", "-v"] := by decide
  have served := (delivered willingCrew ⟨[other, .native "eth0", entry]⟩ 2
    ⟨.empty, [], .blank 0⟩ rfl).resolve_right fun short => short.1 rfl
  rw [words] at served
  exact ⟨accepted, served⟩

end ExtcapHost
