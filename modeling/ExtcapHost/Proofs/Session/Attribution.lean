/-
Module: ExtcapHost.Proofs.Session.Attribution
Purpose: Which of the deeds of a move are done for which entry.
Main exports:
  OneByOne, OneByOne.entry_round, Crew.deedsFor, Crew.serve_round, Crew.serve_deeds
-/
import ExtcapHost.Proofs.Session.Turn

/-!
The calls that reach the machine do not say for which entry they are made.  But a pass
treats the entries one by one, so what it does for an entry is what a pass over the entries
up to that one does, beyond what a pass over the entries before it does.  Together these
are all deeds of a move.
-/

namespace ExtcapHost

variable {σ α : Type}

/-- A pass treats the entries one by one: after an entry it either goes on with the others,
or it ends there and leaves them as they are. -/
structure OneByOne (each : List Entry → Desk σ → Pass σ α) (onward : α) : Prop where
  nil : ∀ desk, each [] desk = ⟨.ok onward, [], desk⟩
  cons : ∀ entry desk,
    (∃ next later, ∀ rest, each (entry :: rest) desk = (each rest later).after next) ∨
      ∃ result next later, result ≠ .ok onward ∧
        ∀ rest, each (entry :: rest) desk = ⟨result, next :: rest, later⟩

namespace OneByOne

variable {each : List Entry → Desk σ → Pass σ α} {onward : α}

/-- The entries may be treated in two parts, the second part only if the first one did not
end the pass. -/
theorem append (ordered : OneByOne each onward) (front back : List Entry) (desk : Desk σ) :
    let first := each front desk
    let second := each back first.desk
    (first.result = .ok onward ∧ each (front ++ back) desk =
        ⟨second.result, first.entries ++ second.entries, second.desk⟩) ∨
      (first.result ≠ .ok onward ∧ each (front ++ back) desk =
        ⟨first.result, first.entries ++ back, first.desk⟩) := by
  induction front generalizing desk with
  | nil =>
      left
      rw [ordered.nil]
      exact ⟨rfl, rfl⟩
  | cons entry rest ih =>
      rcases ordered.cons entry desk with ⟨next, later, goes⟩ | ⟨result, next, later, ends, stays⟩
      · rw [List.cons_append, goes, goes]
        rcases ih later with ⟨result, both⟩ | ⟨result, both⟩
        · left
          exact ⟨result, by rw [both]; rfl⟩
        · right
          exact ⟨result, by rw [both]; rfl⟩
      · right
        rw [List.cons_append, stays, stays]
        exact ⟨ends, rfl⟩

end OneByOne

namespace Crew

/-- Starting entries treats them one by one. -/
theorem startEach_oneByOne (crew : Crew σ) : OneByOne crew.startEach true where
  nil _ := rfl
  cons entry desk := by
    cases waiting : entry.waiting with
    | false => exact .inl ⟨entry, desk, fun rest => startEach_of_idle waiting⟩
    | true =>
        rcases made : crew.maker.create desk.machine with ⟨outcome, next⟩
        cases outcome with
        | error fault =>
            right
            rcases fault.foreign_or_own with foreign | ⟨error, rfl⟩
            · exact ⟨.error fault, entry, _, nofun,
                fun rest => startEach_of_failed waiting foreign made⟩
            · exact ⟨.ok false, entry, _, nofun, fun rest => startEach_of_refused waiting made⟩
        | ok channel =>
            rcases launched : crew.launch (entry.opened channel) channel
              { desk with machine := next } with ⟨result, later⟩
            cases result with
            | error fault =>
                exact .inr ⟨.error fault, _, _, nofun,
                  fun rest => startEach_of_stranded waiting made launched⟩
            | ok spawned =>
                exact .inl ⟨_, _, fun rest => startEach_of_launched waiting made launched⟩

/-- Closing entries treats them one by one. -/
theorem closeEach_oneByOne (crew : Crew σ) : OneByOne crew.closeEach () where
  nil _ := rfl
  cons entry desk := by
    cases backed : entry.isBacked with
    | false => exact .inl ⟨entry, desk, fun rest => closeEach_of_native backed⟩
    | true =>
        rcases done : crew.unlink entry desk with ⟨result, later⟩
        cases result with
        | error fault =>
            exact .inr ⟨.error fault, entry, _, nofun, fun rest => closeEach_of_stuck backed done⟩
        | ok unlinked => exact .inl ⟨_, _, fun rest => closeEach_of_unlinked backed done⟩

end Crew

/-! ### What a pass does for one entry -/

/-- A turn does its deeds after all others. -/
theorem Turn.deeds_grow {entry next : Entry} {books last : Books}
    (turn : Turn entry books next last) : ∃ deeds, last.deeds = books.deeds ++ deeds := by
  cases turn with
  | refused => exact ⟨_, rfl⟩
  | stranded => exact ⟨_, rfl⟩
  | unmanned => exact ⟨_, rfl⟩
  | manned => exact ⟨_, rfl⟩
  | promoted => exact ⟨[], (List.append_nil _).symm⟩
  | stuck => exact ⟨_, rfl⟩
  | retained => exact ⟨_, Books.letGo_deeds _ _⟩
  | cleared => exact ⟨_, Books.letGo_deeds _ _⟩
  | bare => exact ⟨[], by rw [Books.letGo_deeds, List.append_nil]⟩

namespace Round

theorem length_eq {first second : List Entry} {books last : Books}
    (round : Round first books second last) : second.length = first.length := by
  induction round with
  | done => rfl
  | turn before after head tail ih => simpa using ih

/-- A round of a single entry leaves a single entry. -/
theorem single_eq {entry : Entry} {entries : List Entry} {books last : Books}
    (round : Round [entry] books entries last) : ∃ next, entries = [next] :=
  List.length_eq_one_iff.mp round.length_eq

/-- Deeds are never undone. -/
theorem deeds_grow {first second : List Entry} {books last : Books}
    (round : Round first books second last) : ∃ deeds, last.deeds = books.deeds ++ deeds := by
  induction round with
  | done => exact ⟨[], (List.append_nil _).symm⟩
  | turn before after head tail ih =>
      obtain ⟨first, done⟩ := head.deeds_grow
      obtain ⟨more, then_done⟩ := ih
      exact ⟨first ++ more, by rw [then_done, done, List.append_assoc]⟩

end Round

/-- The entry at a place has its turns when the pass over the entries before it is over, if
that has not ended the whole pass. -/
theorem OneByOne.entry_round {each : List Entry → Desk (Recorded σ) → Pass (Recorded σ) α}
    {onward : α} (ordered : OneByOne each onward)
    (rounds : ∀ entries desk,
      Round entries desk.books (each entries desk).entries (each entries desk).desk.books)
    (front back : List Entry) (entry : Entry) (desk : Desk (Recorded σ)) :
    ∃ (before after : List Entry) (next : Entry),
      (each (front ++ entry :: back) desk).entries = before ++ next :: after ∧
        before.length = front.length ∧
        Round [entry] (each front desk).desk.books [next]
          (each (front ++ [entry]) desk).desk.books := by
  have length := (rounds front desk).length_eq
  rcases ordered.append front (entry :: back) desk with ⟨went, both⟩ | ⟨ended, both⟩
  · obtain ⟨-, upTo⟩ := (ordered.append front [entry] desk).resolve_right fun other => other.1 went
    have round := rounds [entry] (each front desk).desk
    obtain ⟨next, alone⟩ := round.single_eq
    rw [alone] at round
    rw [both, upTo]
    rcases ordered.append [entry] back (each front desk).desk with ⟨-, rest⟩ | ⟨-, rest⟩
    · rw [List.singleton_append] at rest
      rw [rest, alone]
      exact ⟨_, _, next, rfl, length, round⟩
    · rw [List.singleton_append] at rest
      rw [rest, alone]
      exact ⟨_, _, next, rfl, length, round⟩
  · obtain ⟨-, upTo⟩ := (ordered.append front [entry] desk).resolve_left fun other => ended other.1
    rw [both, upTo]
    exact ⟨_, _, entry, rfl, length, .done _ _⟩

namespace Crew

variable (crew : Crew σ)

theorem start_desk (session : Session) (desk : Desk σ) :
    (crew.start session desk).2.2 = (crew.startEach session.entries desk).desk := by
  by_cases completed : (crew.startEach session.entries desk).result = .ok true
  · rw [start_of_completed completed]
  · rw [start_of_ended completed]

/-- Serving a session, the entry at a place has turns of its own.  What is done in them is
what serving the entries up to it does beyond serving the entries before it. -/
theorem serve_entry (front back : List Entry) (entry : Entry) (desk : Desk (Recorded σ))
    (move : Move σ) :
    let served (entries : List Entry) := crew.recorded.serve ⟨entries⟩ desk move.recorded
    ∃ (before after : List Entry) (next : Entry),
      (served (front ++ entry :: back)).1.entries = before ++ next :: after ∧
        before.length = front.length ∧
        Round [entry] (served front).2.books [next] (served (front ++ [entry])).2.books := by
  cases move with
  | addNative name => exact ⟨front, back ++ [.native name], entry, by simp [serve,
      Move.recorded, Session.addNative, Session.add], rfl, .done _ _⟩
  | addBacked name helper arguments =>
      simp only [serve, Move.recorded, Session.addBacked]
      split
      · rename_i added made
        exact ⟨front, back ++ [added], entry, by simp [Session.add], rfl, .done _ _⟩
      · exact ⟨front, back, entry, rfl, rfl, .done _ _⟩
  | addInterface registry name arguments =>
      simp only [serve, Move.recorded, addInterface, Session.addBacked]
      split
      · exact ⟨front, back, entry, rfl, rfl, .done _ _⟩
      · split
        · rename_i added made
          exact ⟨front, back ++ [added], entry, by simp [Session.add], rfl, .done _ _⟩
        · exact ⟨front, back, entry, rfl, rfl, .done _ _⟩
  | start =>
      obtain ⟨before, after, next, entries, length, round⟩ :=
        crew.recorded.startEach_oneByOne.entry_round crew.startEach_round front back entry desk
      simp only [serve, Move.recorded, start_desk]
      by_cases completed :
        (crew.recorded.startEach (front ++ entry :: back) desk).result = .ok true
      · rw [start_of_completed completed, entries, List.map_append, List.map_cons]
        refine ⟨_, _, next.promoted, rfl, by rw [List.length_map, length], round.trans ?_⟩
        exact .single .promoted []
      · rw [start_of_ended completed, entries]
        exact ⟨before, after, next, rfl, length, round⟩
  | cleanup =>
      exact crew.recorded.closeEach_oneByOne.entry_round crew.closeEach_round front back entry desk
  | running =>
      refine ⟨front, back, entry, rfl, rfl, ?_⟩
      simp only [serve, Move.recorded, running, runningEach_books]
      exact .done _ _
  | elapse change => exact ⟨front, back, entry, rfl, rfl, .done _ _⟩

/-- Serving a session without entries does nothing. -/
theorem serve_nil (desk : Desk (Recorded σ)) (move : Move σ) :
    (crew.recorded.serve ⟨[]⟩ desk move.recorded).2.machine.deeds = desk.machine.deeds := by
  cases move with
  | addInterface registry name arguments =>
      simp only [serve, Move.recorded, addInterface]
      split <;> rfl
  | _ => rfl

/-- What has been done once as many entries of a session are served. -/
def deedsUpTo (session : Session) (desk : Desk (Recorded σ)) (move : Move σ) (count : Nat) :
    List Call :=
  (crew.recorded.serve ⟨session.entries.take count⟩ desk move.recorded).2.machine.deeds

/-- What serving a session does for the entry at an index. -/
def deedsFor (session : Session) (desk : Desk (Recorded σ)) (move : Move σ) (index : Nat) :
    List Call :=
  (crew.deedsUpTo session desk move (index + 1)).drop
    (crew.deedsUpTo session desk move index).length

/-- The entry at an index becomes another one by turns of its own. -/
theorem serve_round {session : Session} {index : Nat} {entry : Entry}
    (present : session.entries[index]? = some entry) (desk : Desk (Recorded σ))
    (move : Move σ) :
    ∃ (next : Entry) (books last : Books),
      (crew.recorded.serve session desk move.recorded).1.entries[index]? = some next ∧
        Round [entry] books [next] last ∧
        books.deeds = crew.deedsUpTo session desk move index ∧
        last.deeds = crew.deedsUpTo session desk move (index + 1) := by
  obtain ⟨inside, there⟩ := List.getElem?_eq_some_iff.mp present
  have cut : session.entries.take index ++ entry :: session.entries.drop (index + 1) =
      session.entries := by
    rw [← there, List.getElem_cons_drop, List.take_append_drop]
  have upTo : session.entries.take (index + 1) = session.entries.take index ++ [entry] := by
    rw [List.take_succ_eq_append_getElem inside, there]
  have length : (session.entries.take index).length = index := by
    rw [List.length_take, Nat.min_eq_left (by omega)]
  obtain ⟨before, after, next, entries, place, round⟩ :=
    crew.serve_entry (session.entries.take index) (session.entries.drop (index + 1)) entry desk move
  rw [cut] at entries
  rw [length] at place
  refine ⟨next, _, _, ?_, round, rfl, ?_⟩
  · rw [entries, List.getElem?_append_right (by omega), place, Nat.sub_self,
      List.getElem?_cons_zero]
  · rw [deedsUpTo, upTo]
    rfl

/-- With one more entry, what is done for it is done too. -/
theorem deedsUpTo_succ (session : Session) (desk : Desk (Recorded σ)) (move : Move σ)
    (index : Nat) :
    crew.deedsUpTo session desk move (index + 1) =
      crew.deedsUpTo session desk move index ++ crew.deedsFor session desk move index := by
  suffices grown : ∃ deeds, crew.deedsUpTo session desk move (index + 1) =
      crew.deedsUpTo session desk move index ++ deeds by
    obtain ⟨deeds, grown⟩ := grown
    rw [deedsFor, grown, List.drop_left]
  cases present : session.entries[index]? with
  | none =>
      have short := List.getElem?_eq_none_iff.mp present
      refine ⟨[], ?_⟩
      rw [deedsUpTo, deedsUpTo, List.take_of_length_le short, List.take_of_length_le (by omega),
        List.append_nil]
  | some entry =>
      obtain ⟨next, books, last, -, round, before, after⟩ := crew.serve_round present desk move
      rw [← before, ← after]
      exact round.deeds_grow

/-- Nothing is done for an index without an entry. -/
theorem deedsFor_of_absent {session : Session} {index : Nat}
    (absent : session.entries[index]? = none) (desk : Desk (Recorded σ)) (move : Move σ) :
    crew.deedsFor session desk move index = [] := by
  have short := List.getElem?_eq_none_iff.mp absent
  rw [deedsFor, deedsUpTo, deedsUpTo, List.take_of_length_le short,
    List.take_of_length_le (by omega), List.drop_length]

/-- All deeds of a move are done for one entry or another. -/
theorem serve_deeds (session : Session) (desk : Desk (Recorded σ)) (move : Move σ) :
    (crew.recorded.serve session desk move.recorded).2.machine.deeds =
      desk.machine.deeds ++
        (List.range session.size).flatMap (crew.deedsFor session desk move) := by
  suffices upTo : ∀ count, crew.deedsUpTo session desk move count =
      desk.machine.deeds ++ (List.range count).flatMap (crew.deedsFor session desk move) by
    have all := upTo session.size
    rw [deedsUpTo, Session.size, List.take_length] at all
    exact all
  intro count
  induction count with
  | zero =>
      rw [deedsUpTo, List.take_zero, crew.serve_nil, List.range_zero, List.flatMap_nil,
        List.append_nil]
  | succ count ih =>
      rw [deedsUpTo_succ, ih, List.range_succ, List.flatMap_append, List.flatMap_singleton,
        List.append_assoc]

end Crew

end ExtcapHost
