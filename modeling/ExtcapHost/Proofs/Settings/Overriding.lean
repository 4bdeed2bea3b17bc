/-
Module: ExtcapHost.Proofs.Settings.Overriding
Purpose: Which members of a settings file decide which settings.
Main exports:
  Settings.spoilingNames, Settings.channelsOf?, Settings.following,
  Settings.assignAll_of_free, Settings.each_setting_follows_its_own_name
-/
import ExtcapHost.Proofs.Json.Verbatim
import ExtcapHost.Proofs.Settings.RoundTrip

/-!
The members of a file are written one after the other into a table that holds all settings.
What stands in the table under the name of a setting is then the last member of that name,
or the setting itself if there is none.  No other member is looked at.

This breaks down for four names that belong to the table as such.  One of them in a file is
enough, and the file is refused although it says nothing of a setting.
-/

namespace ExtcapHost.Settings

open Text

variable {base : Settings} {values members channels : Table}

/-- The members for helpers and channels in a file with the given members: none if the file
has no such section.  The last section counts. -/
def channelsOf? (members : Table) : Option Table :=
  match Json.memberOf? "extcap" members.reverse with
  | none => some []
  | some (.object channels) => some channels
  | some _ => none

/-- Settings in which each one takes the last value of its own name in a file, and stays if
the file does not name it.  Text for a directory becomes a path. -/
def following (base : Settings) (members channels : Table) : Settings where
  verbose := (Json.lastOf? "verbose" members).getD base.verbose
  helperDirectory :=
    ((Json.lastOf? "helper_dir" channels).map Place.ofJson).getD base.helperDirectory
  channelWord := (Json.lastOf? "pipe_prefix" channels).getD base.channelWord
  channelDirectory :=
    ((Json.lastOf? "pipe_dir" channels).map Place.ofJson).getD base.channelDirectory
  pipeInstances := (Json.lastOf? "pipe_max_instances" channels).getD base.pipeInstances
  pipeBuffer := (Json.lastOf? "pipe_buffer_size" channels).getD base.pipeBuffer
  pipeTimeout := (Json.lastOf? "pipe_timeout_ms" channels).getD base.pipeTimeout

/-- What stands in the table of all settings is a setting. -/
theorem mem_settingNames (base : Settings) {name : String} {kept : Json}
    (known : Json.memberOf? name base.table = some kept) : wide name.toList ∈ settingNames := by
  rw [← keys_table base]
  exact Ordered.mem_keys (Ordered.mem_of_get? known)

/-- Only the names of settings matter. -/
theorem following_congr {others otherChannels : Table}
    (verbose : Json.lastOf? "verbose" others = Json.lastOf? "verbose" members)
    (same : ∀ name : String, wide name.toList ∈ settingNames →
      Json.lastOf? name otherChannels = Json.lastOf? name channels) :
    base.following others otherChannels = base.following members channels := by
  have alike : ∀ (name : String) (kept : Json), Json.memberOf? name base.table = some kept →
      Json.lastOf? name otherChannels = Json.lastOf? name channels :=
    fun name _ known => same name (mem_settingNames base known)
  rw [following, following, verbose, alike "helper_dir" _ rfl, alike "pipe_prefix" _ rfl,
    alike "pipe_dir" _ rfl, alike "pipe_max_instances" _ rfl, alike "pipe_buffer_size" _ rfl,
    alike "pipe_timeout_ms" _ rfl]

/-! ### Writing the members of a file into the table -/

theorem knows_of_mem {name : List Letter} (present : name ∈ Ordered.keys values) :
    knows values name = true := by
  rw [knows, Bool.or_eq_true]
  left
  rw [Option.isSome_iff_ne_none, ne_eq, Ordered.get?_eq_none_iff, not_not]
  exact present

/-- One member is put where its name stands, and does not bring in any name but its own. -/
theorem assign_lookup (values : Table) {name : List Letter} (free : name ∉ spoilingNames)
    (value : Json) :
    ∃ result, assign values name value = .ok result ∧
      (∀ other ∈ Ordered.keys values, other ∈ Ordered.keys result ∧
        Ordered.get? other result =
          if name = other then some value else Ordered.get? other values) ∧
      ∀ other ∈ Ordered.keys result, other ∈ Ordered.keys values ∨ other = name := by
  refine ⟨_, assign_of_free free value, ?_⟩
  by_cases known : knows values name = true
  · rw [if_pos known]
    refine ⟨fun other present => ⟨(Ordered.mem_keys_put value).mpr (.inl present), ?_⟩,
      fun other present => (Ordered.mem_keys_put value).mp present⟩
    by_cases same : name = other
    · rw [if_pos same, same, Ordered.get?_put_self]
    · rw [if_neg same, Ordered.get?_put_other (Ne.symm same)]
  · rw [if_neg known]
    refine ⟨fun other present => ⟨present, ?_⟩, fun other present => .inl present⟩
    have differs : name ≠ other := by
      rintro rfl
      exact known (knows_of_mem present)
    rw [if_neg differs]

/-- Members with distinct names that are free can all be written.  Under a name of the table
then stands the member of that name, or what stood there before. -/
theorem assignAll_of_free (values : Table) (distinct : (Ordered.keys members).Nodup)
    (free : ∀ name ∈ spoilingNames, name ∉ Ordered.keys members) :
    ∃ result, assignAll values members = .ok result ∧
      (∀ name ∈ Ordered.keys values, Ordered.get? name result =
        (Ordered.get? name members).or (Ordered.get? name values)) ∧
      ∀ name ∈ Ordered.keys result,
        name ∈ Ordered.keys values ∨ name ∈ Ordered.keys members := by
  induction members generalizing values with
  | nil => exact ⟨values, rfl, fun name present => rfl, fun name present => .inl present⟩
  | cons member rest ih =>
      obtain ⟨name, value⟩ := member
      rw [Ordered.keys_cons, List.nodup_cons] at distinct
      have freeHere : name ∉ spoilingNames := fun among => free name among (.head _)
      obtain ⟨next, first, lookup, names⟩ := assign_lookup values freeHere value
      obtain ⟨result, later, lookups, allNames⟩ :=
        ih next distinct.2 fun name among member => free name among (.tail _ member)
      refine ⟨result, ?_, ?_, ?_⟩
      · rw [assignAll, first]
        exact later
      · intro other present
        obtain ⟨kept, found⟩ := lookup other present
        rw [lookups other kept, found, Ordered.get?]
        by_cases same : name = other
        · have absent : Ordered.get? other rest = none :=
            Ordered.get?_eq_none_iff.mpr (same ▸ distinct.1)
          rw [if_pos same, if_pos same, absent, Option.none_or, Option.some_or]
        · rw [if_neg same, if_neg same]
      · intro other present
        rcases allNames other present with here | later
        · rcases names other here with older | rfl
          · exact .inl older
          · exact .inr (.head _)
        · exact .inr (.tail _ later)

/-! ### The settings in the table -/

/-- What follows from the table that the members of a file leave. -/
theorem ofTable_following (helpers : base.helperDirectory.IsNormal)
    (directory : base.channelDirectory.IsNormal) {table : Table}
    (lookup : ∀ name ∈ settingNames, Ordered.get? name table =
      (Ordered.get? name (Ordered.ofPairs (Json.mergedMembers channels))).or
        (Ordered.get? name base.table))
    (incomplete : wide completionName.toList ∉ Ordered.keys table) :
    ofTable base ((Json.lastOf? "verbose" members).getD base.verbose) table =
      .ok (base.following members channels) := by
  have found : ∀ (name : String) (kept : Json), Json.memberOf? name base.table = some kept →
      Json.memberOf? name table = some ((Json.lastOf? name channels).getD kept) := by
    intro name kept known
    have among := mem_settingNames base known
    rw [Json.memberOf?] at known ⊢
    rw [lookup _ among, known, Option.or_some]
    exact congrArg (fun found => some (Option.getD found kept))
      (Json.memberOf?_merged name channels)
  -- A directory that the file does not name is written in words and read again.
  have place : ∀ (kept : Place) (told : Option Json), kept.IsNormal →
      Place.ofJson (told.getD (.string kept.letters)) = (told.map Place.ofJson).getD kept := by
    intro kept told normal
    cases told with
    | none => exact normal.parse_letters
    | some value => rfl
  have complete : Json.memberOf? completionName table = none :=
    Ordered.get?_eq_none_iff.mpr incomplete
  rw [ofTable, complete, found "helper_dir" _ rfl, found "pipe_prefix" _ rfl,
    found "pipe_dir" _ rfl, found "pipe_max_instances" _ rfl, found "pipe_buffer_size" _ rfl,
    found "pipe_timeout_ms" _ rfl]
  simp only [Option.isSome_none, Bool.false_eq_true, if_false, Option.getD_some,
    place _ _ helpers, place _ _ directory, following]

/-- A document is read as its members tell, if none of the names for helpers and channels
spoils the table. -/
theorem ofDocument_following (helpers : base.helperDirectory.IsNormal)
    (directory : base.channelDirectory.IsNormal) (told : channelsOf? members = some channels)
    (free : ∀ name ∈ spoilingNames, name ∉ Ordered.keys channels) :
    ofDocument base (Json.merged (.object members)) = .ok (base.following members channels) := by
  rw [Json.merged, ofDocument, Json.memberOf?_merged, Json.memberOf?_merged]
  unfold channelsOf? at told
  cases last : Json.memberOf? "extcap" members.reverse with
  | none =>
      rw [last] at told
      cases told
      simp only [Json.lastOf?, last]
      rfl
  | some section? =>
      rw [last] at told
      cases section? with
      | object inside =>
          obtain rfl : inside = channels := Option.some.inj told
          have sameKeys : ∀ name, name ∈ Ordered.keys (Ordered.ofPairs
              (Json.mergedMembers inside)) → name ∈ Ordered.keys inside := by
            intro name present
            rwa [Ordered.mem_keys_ofPairs, Json.keys_mergedMembers] at present
          obtain ⟨table, assigned, lookup, names⟩ :=
            assignAll_of_free base.table
              (Ordered.nodup_keys_ofPairs (Json.mergedMembers inside))
              fun name among present => free name among (sameKeys name present)
          have incomplete : wide completionName.toList ∉ Ordered.keys table := by
            intro present
            rcases names _ present with entry | member
            · rw [keys_table] at entry
              exact absurd entry (by decide)
            · exact free _ (by decide) (sameKeys _ member)
          have said : Json.lastOf? "extcap" members =
              some (.object (Ordered.ofPairs (Json.mergedMembers inside))) := by
            rw [Json.lastOf?, last]
            rfl
          simp only [said, assigned]
          exact ofTable_following helpers directory lookup incomplete
      | _ => cases told

/-- A file whose members for helpers and channels have none of the names that spoil the table
is loaded, and each setting takes the last value of its own name in the file or keeps its
default.  So any two such files that agree on the names of settings load alike, whatever
other members they have and in whatever order. -/
theorem each_setting_follows_its_own_name (depth : Nat) (home temporary text : String)
    {members channels : Table} (written : Json.readVerbatim depth text = .ok (.object members))
    (told : channelsOf? members = some channels)
    (free : ∀ name ∈ spoilingNames, name ∉ Ordered.keys channels) :
    load depth (initial home temporary) text =
        .ok ((initial home temporary).following members channels) ∧
      ∀ {otherText : String} {others otherChannels : Table},
        Json.readVerbatim depth otherText = .ok (.object others) →
        channelsOf? others = some otherChannels →
        (∀ name ∈ spoilingNames, name ∉ Ordered.keys otherChannels) →
        Json.lastOf? "verbose" others = Json.lastOf? "verbose" members →
        (∀ name : String, wide name.toList ∈ settingNames →
          Json.lastOf? name otherChannels = Json.lastOf? name channels) →
        load depth (initial home temporary) otherText =
          load depth (initial home temporary) text := by
  have normal := initial_storable depth home temporary
  have loaded : ∀ {text : String} {members channels : Table},
      Json.readVerbatim depth text = .ok (.object members) →
      channelsOf? members = some channels →
      (∀ name ∈ spoilingNames, name ∉ Ordered.keys channels) →
      load depth (initial home temporary) text =
        .ok ((initial home temporary).following members channels) := by
    intro text members channels written told free
    have parsed : readDocument depth text = .ok (Json.merged (.object members)) := by
      rw [readDocument, Json.read_eq_merged, written]
      rfl
    rw [load, parsed]
    exact ofDocument_following normal.helperDirectory normal.channelDirectory told free
  refine ⟨loaded written told free, ?_⟩
  intro otherText others otherChannels otherWritten otherTold otherFree verbose same
  rw [loaded otherWritten otherTold otherFree, loaded written told free,
    following_congr verbose same]

/-- A settings file with a section and a member that come twice, an unknown member, and one
with a name that is reserved but spoils nothing. -/
def repeatedText : String :=
  "\x7b\"extcap\": \x7b\"pipe_dir\": 1\x7d, \"verbose\": 1, \"extcap\": \x7b" ++
    "\"pipe_timeout_ms\": 50, \"bogus\": [], \"__doc__\": 2, \"helper_dir\": \"a//b\", " ++
    "\"pipe_timeout_ms\": \x7b\"x\": 1, \"x\": 2\x7d\x7d\x7d"

/-- Its members for helpers and channels. -/
def repeatedChannels : Table :=
  [ (wide "pipe_timeout_ms".toList, .integer 50), (wide "bogus".toList, .list []),
    (wide "__doc__".toList, .integer 2), (wide "helper_dir".toList, .ofString "a//b"),
    (wide "pipe_timeout_ms".toList,
      .object [(wide "x".toList, .integer 1), (wide "x".toList, .integer 2)]) ]

/-- All its members. -/
def repeatedMembers : Table :=
  [ (wide "extcap".toList, .object [(wide "pipe_dir".toList, .integer 1)]),
    (wide "verbose".toList, .integer 1), (wide "extcap".toList, .object repeatedChannels) ]

theorem repeated_members_followed :
    Json.readVerbatim 5 repeatedText = .ok (.object repeatedMembers) ∧
      channelsOf? repeatedMembers = some repeatedChannels ∧
      (∀ name ∈ spoilingNames, name ∉ Ordered.keys repeatedChannels) ∧
      load 5 (initial "/home/user" "/tmp") repeatedText =
        .ok
          { initial "/home/user" "/tmp" with
            verbose := .integer 1
            helperDirectory := .path ⟨0, [wide "a".toList, wide "b".toList]⟩
            pipeTimeout := .object [(wide "x".toList, .integer 2)] } := by
  have written : Json.readVerbatim 5 repeatedText = .ok (.object repeatedMembers) := by cbv
  have told : channelsOf? repeatedMembers = some repeatedChannels := rfl
  have free : ∀ name ∈ spoilingNames, name ∉ Ordered.keys repeatedChannels := by decide
  obtain ⟨loaded, -⟩ :=
    each_setting_follows_its_own_name 5 "/home/user" "/tmp" repeatedText written told free
  exact ⟨written, told, free, loaded⟩

/-- A settings file with one member for helpers and channels, which names no setting. -/
def refusedText : String :=
  "\x7b\"extcap\": \x7b\"__class__\": 1\x7d\x7d"

/-- The file is an object whose section is an object, but it is refused. -/
theorem unknown_name_refused :
    Json.readVerbatim 5 refusedText =
        .ok (.object [(wide "extcap".toList,
          .object [(wide "__class__".toList, .integer 1)])]) ∧
      wide "__class__".toList ∉ settingNames ∧
      load 5 (initial "/home/user" "/tmp") refusedText = .error .wrongType := by
  have written : Json.readVerbatim 5 refusedText =
      .ok (.object [(wide "extcap".toList,
        .object [(wide "__class__".toList, .integer 1)])]) := by cbv
  refine ⟨written, by decide, ?_⟩
  rw [load, readDocument, Json.read_eq_merged, written]
  rfl

end ExtcapHost.Settings
