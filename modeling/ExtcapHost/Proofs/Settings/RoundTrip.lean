/-
Module: ExtcapHost.Proofs.Settings.RoundTrip
Purpose: Settings that were loaded are saved and loaded again.
Main exports:
  Settings.Storable, Settings.Storable.load_save, Settings.IsOrdinary,
  Settings.ofDocument_storable, Settings.loaded_settings_survive_saving
-/
import ExtcapHost.Proofs.Json.Reading
import ExtcapHost.Proofs.Path
import ExtcapHost.Settings.Loading
import Mathlib

/-!
What loading leaves is storable: both directories are paths in normal form, and every other
value came from the file or from the defaults.  Storable settings are read from what is
written for them, on top of whatever settings.

A file may replace the table of values as a whole, or spoil it, by members with reserved
names, and it may put a number where a directory belongs.  An ordinary file does neither.
-/

namespace ExtcapHost

open Text

/-! ### Values and places -/

/-- A value that is read again from what is written for it. -/
structure Json.Storable (depth : Nat) (value : Json) : Prop where
  readable : Json.Readable depth value
  plain : value.plain = true

theorem Text.all_isScalar_wide (text : List Char) : (wide text).all Letter.isScalar = true := by
  rw [List.all_eq_true]
  intro letter member
  obtain ⟨c, -, rfl⟩ := List.mem_map.mp member
  rfl

theorem Json.storable_ofString (depth : Nat) (text : String) :
    Json.Storable depth (.ofString text) :=
  ⟨.string depth _, all_isScalar_wide text.toList⟩

/-- Small numbers have few digits. -/
theorem Json.storable_ofNat (depth : Nat) {n : Nat} (small : n < 10 ^ 9) :
    Json.Storable depth (.integer n) :=
  ⟨.integer depth (Nat.le_trans (length_writeNatural_le (by decide) small) (by decide)), rfl⟩

namespace Place

/-- A place that is a path in normal form, without surrogates. -/
structure IsNormal (place : Place) : Prop where
  path : ∃ path : Path Letter, place = .path path ∧ path.IsNormal
  scalar : place.letters.all Letter.isScalar = true

/-- Text without surrogates is a path in normal form. -/
theorem isNormal_parse {letters : List Letter} (scalar : letters.all Letter.isScalar = true) :
    (Place.path (.parse letters)).IsNormal := by
  refine ⟨⟨_, rfl, Path.parse_isNormal letters⟩, ?_⟩
  rw [List.all_eq_true] at scalar ⊢
  intro letter member
  rcases Path.mem_render_parse member with rfl | dot | inside
  · rfl
  · rw [List.mem_singleton.mp dot]
    rfl
  · exact scalar letter inside

/-- The words for a path in normal form are read as the path. -/
theorem IsNormal.parse_letters {place : Place} (normal : place.IsNormal) :
    Place.path (.parse place.letters) = place := by
  obtain ⟨path, rfl, kept⟩ := normal.path
  exact congrArg Place.path (Path.parse_render (by decide) kept)

end Place

namespace Settings

/-! ### Saving and loading -/

/-- Settings that are read again from what is written for them. -/
structure Storable (depth : Nat) (settings : Settings) : Prop where
  helperDirectory : settings.helperDirectory.IsNormal
  channelDirectory : settings.channelDirectory.IsNormal
  verbose : Json.Storable (depth + 1) settings.verbose
  values : ∀ value ∈ [settings.channelWord, settings.pipeInstances, settings.pipeBuffer,
    settings.pipeTimeout], Json.Storable depth value

variable {depth : Nat} {base settings : Settings} {values : Table}

/-- The names in the table of all settings. -/
def settingNames : List (List Letter) :=
  ["helper_dir", "pipe_prefix", "pipe_dir", "pipe_max_instances", "pipe_buffer_size",
    "pipe_timeout_ms"].map fun name => wide name.toList

theorem keys_table (settings : Settings) : Ordered.keys settings.table = settingNames := rfl

/-- The values of storable settings are storable in the table as well. -/
theorem Storable.table (storable : settings.Storable depth) {name : List Letter} {value : Json}
    (member : (name, value) ∈ settings.table) : Json.Storable depth value := by
  have others := storable.values
  simp only [List.forall_mem_cons] at others
  obtain ⟨channelWord, pipeInstances, pipeBuffer, pipeTimeout, -⟩ := others
  simp only [Settings.table, List.mem_cons, Prod.mk.injEq, List.not_mem_nil, or_false] at member
  rcases member with ⟨-, rfl⟩ | ⟨-, rfl⟩ | ⟨-, rfl⟩ | ⟨-, rfl⟩ | ⟨-, rfl⟩ | ⟨-, rfl⟩
  · exact ⟨.string depth _, storable.helperDirectory.scalar⟩
  · exact channelWord
  · exact ⟨.string depth _, storable.channelDirectory.scalar⟩
  · exact pipeInstances
  · exact pipeBuffer
  · exact pipeTimeout

/-- The document of storable settings has two levels more than their values. -/
theorem Storable.document (storable : settings.Storable depth) :
    Json.Storable (depth + 2) settings.document := by
  have scalar : settingNames.all (·.all Letter.isScalar) = true := rfl
  have inner : Json.Storable (depth + 1) (.object settings.table) := by
    refine ⟨.object ?_ fun _ _ member => (storable.table member).readable,
      Json.plain_object.mpr fun name value member => ⟨?_, (storable.table member).plain⟩⟩
    · rw [keys_table]
      decide
    · exact List.all_eq_true.mp scalar name (Ordered.mem_keys member)
  have members : ∀ name value,
      (name, value) ∈ [(wide "verbose".toList, settings.verbose),
        (wide "extcap".toList, .object settings.table)] →
      name.all Letter.isScalar = true ∧ Json.Storable (depth + 1) value := by
    simp only [List.mem_cons, Prod.mk.injEq, List.not_mem_nil, or_false]
    rintro name value (⟨rfl, rfl⟩ | ⟨rfl, rfl⟩)
    · exact ⟨rfl, storable.verbose⟩
    · exact ⟨rfl, inner⟩
  have distinct : (["verbose", "extcap"].map fun name => wide name.toList).Nodup := by decide
  exact ⟨.object distinct fun name value member => (members name value member).2.readable,
    Json.plain_object.mpr fun name value member =>
      ⟨(members name value member).1, (members name value member).2.plain⟩⟩

/-- A document of settings replaces all of the settings below it. -/
theorem ofDocument_document (base settings : Settings) :
    ofDocument base settings.document =
      .ok
        { settings with
          helperDirectory := .path (.parse settings.helperDirectory.letters)
          channelDirectory := .path (.parse settings.channelDirectory.letters) } := rfl

/-- Storable settings are loaded from what is saved of them. -/
theorem Storable.load_save (storable : settings.Storable depth) (base : Settings) :
    load (depth + 2) base settings.save = .ok settings := by
  have document := storable.document
  rw [load, readDocument, save, Json.read_write document.readable document.plain]
  simp only [ofDocument_document, storable.helperDirectory.parse_letters,
    storable.channelDirectory.parse_letters]

theorem initial_storable (depth : Nat) (home temporary : String) :
    (initial home temporary).Storable depth where
  helperDirectory := Place.isNormal_parse (all_isScalar_wide _)
  channelDirectory := Place.isNormal_parse (all_isScalar_wide _)
  verbose := ⟨.bool _ _, rfl⟩
  values := by
    simp only [List.forall_mem_cons]
    exact ⟨Json.storable_ofString depth _, Json.storable_ofNat depth (by decide),
      Json.storable_ofNat depth (by decide), Json.storable_ofNat depth (by decide),
      List.forall_mem_nil _⟩

/-! ### What an ordinary file leaves -/

/-- The name begins as the reserved names do. -/
def isReserved (name : List Letter) : Bool :=
  (wide "__".toList).isPrefixOf name

/-- The names of the directories. -/
def directoryNames : List (List Letter) :=
  ["helper_dir", "pipe_dir"].map fun name => wide name.toList

/-- What a document says of verbosity. -/
def verboseOf? : Json → Option Json
  | .object members => Json.memberOf? "verbose" members
  | _ => none

/-- What a document says of helpers and channels. -/
def channelMembers : Json → Table
  | .object members =>
      match Json.memberOf? "extcap" members with
      | some (.object values) => values
      | _ => []
  | _ => []

/-- A member with a plain value, whose name is not reserved, and with text if it is for a
directory. -/
structure IsOrdinaryMember (name : List Letter) (value : Json) : Prop where
  plain : value.plain = true
  unreserved : isReserved name = false
  text : name ∈ directoryNames → value.kind = .string

instance (name : List Letter) (value : Json) : Decidable (IsOrdinaryMember name value) :=
  decidable_of_iff
    (value.plain = true ∧ isReserved name = false ∧
      (name ∈ directoryNames → value.kind = .string))
    ⟨fun ⟨plain, unreserved, text⟩ => ⟨plain, unreserved, text⟩,
      fun ordinary => ⟨ordinary.plain, ordinary.unreserved, ordinary.text⟩⟩

/-- A document that says nothing out of the ordinary. -/
structure IsOrdinary (document : Json) : Prop where
  verbose : ∀ value ∈ verboseOf? document, value.plain = true
  channels : ∀ member ∈ channelMembers document, IsOrdinaryMember member.1 member.2

/-- A name that is known and not reserved is that of an entry. -/
theorem mem_keys_of_knows (entries : Ordered.keys values = settingNames)
    {name : List Letter} (unreserved : isReserved name = false)
    (known : knows values name = true) : name ∈ Ordered.keys values := by
  have reserved : (completionName :: idleNames).all
      (fun known => isReserved (wide known.toList)) = true := rfl
  have plain : plainNames.all
      (fun known => settingNames.contains (wide known.toList)) = true := rfl
  rw [List.all_eq_true] at reserved plain
  rw [knows, Bool.or_eq_true, List.any_eq_true] at known
  rcases known with entry | ⟨known, listed, same⟩
  · cases lookup : Ordered.get? name values with
    | none =>
        rw [lookup] at entry
        cases entry
    | some value => exact Ordered.mem_keys (Ordered.mem_of_get? lookup)
  · obtain rfl := of_decide_eq_true same
    rw [List.cons_append, List.mem_cons, List.mem_append] at listed
    rcases listed with completion | entry | idle
    · rw [reserved known (completion ▸ .head _)] at unreserved
      cases unreserved
    · rw [entries]
      exact List.contains_iff_mem.mp (plain known entry)
    · rw [reserved known (.tail _ idle)] at unreserved
      cases unreserved

/-- The names that are not written like others: three are refused, or taken for the table
itself, and one is taken for what completes the table. -/
def spoilingNames : List (List Letter) :=
  ["__class__", "__weakref__", tableName, completionName].map fun name => wide name.toList

/-- Under any other name a value is written into the table if the table knows the name, and
passed over if not. -/
theorem assign_of_free {name : List Letter} (free : name ∉ spoilingNames) (value : Json) :
    assign values name value =
      .ok (if knows values name then Ordered.put name value values else values) := by
  simp only [spoilingNames, List.map_cons, List.map_nil, List.mem_cons, List.not_mem_nil,
    or_false, not_or] at free
  obtain ⟨notClass, notReference, notTable, -⟩ := free
  unfold assign
  rw [if_neg notClass, if_neg notReference, if_neg notTable]
  split <;> rfl

theorem not_spoiling_of_unreserved {name : List Letter} (unreserved : isReserved name = false) :
    name ∉ spoilingNames := by
  have reserved : spoilingNames.all isReserved = true := rfl
  intro among
  rw [List.all_eq_true.mp reserved name among] at unreserved
  cases unreserved

/-- Writing a value under a name that is not reserved keeps the names, and brings nothing
else into the table. -/
theorem assign_unreserved (entries : Ordered.keys values = settingNames)
    {name : List Letter} (unreserved : isReserved name = false) {value : Json} {result : Table}
    (assigned : assign values name value = .ok result) :
    Ordered.keys result = settingNames ∧
      ∀ entry ∈ result, entry ∈ values ∨ entry = (name, value) := by
  rw [assign_of_free (not_spoiling_of_unreserved unreserved)] at assigned
  cases assigned
  by_cases known : knows values name = true
  · rw [if_pos known]
    refine ⟨?_, fun entry member => (Ordered.mem_put member).symm⟩
    rw [Ordered.keys_put_of_mem (mem_keys_of_knows entries unreserved known), entries]
  · rw [if_neg known]
    exact ⟨entries, fun entry member => .inl member⟩

/-- So does writing many of them. -/
theorem assignAll_unreserved {members : List (List Letter × Json)}
    (unreserved : ∀ member ∈ members, isReserved member.1 = false) {result : Table}
    (entries : Ordered.keys values = settingNames)
    (assigned : assignAll values members = .ok result) :
    Ordered.keys result = settingNames ∧
      ∀ entry ∈ result, entry ∈ values ∨ entry ∈ members := by
  induction members generalizing values with
  | nil =>
      cases assigned
      exact ⟨entries, fun entry member => .inl member⟩
  | cons member rest ih =>
      obtain ⟨name, value⟩ := member
      rw [assignAll] at assigned
      split at assigned
      · rename_i next first
        obtain ⟨kept, origin⟩ := assign_unreserved entries (unreserved _ (.head _)) first
        obtain ⟨names, origins⟩ :=
          ih (fun other member => unreserved other (.tail _ member)) kept assigned
        refine ⟨names, fun entry member => ?_⟩
        rcases origins entry member with written | later
        · rcases origin entry written with older | rfl
          · exact .inl older
          · exact .inr (.head _)
        · exact .inr (.tail _ later)
      · cases assigned

/-- A table with the usual names, storable values, and text for the directories leaves
storable settings. -/
theorem ofTable_storable (entries : Ordered.keys values = settingNames)
    (storable : ∀ name value, (name, value) ∈ values → Json.Storable depth value)
    (directories : ∀ name value, (name, value) ∈ values → name ∈ directoryNames →
      value.kind = .string)
    {verbose : Json} (told : Json.Storable (depth + 1) verbose)
    (made : ofTable base verbose values = .ok settings) : settings.Storable depth := by
  have found : ∀ name : String, wide name.toList ∈ settingNames →
      ∃ value, Json.memberOf? name values = some value ∧ (wide name.toList, value) ∈ values := by
    intro name among
    rw [← entries] at among
    cases lookup : Ordered.get? (wide name.toList) values with
    | none => exact absurd among (Ordered.get?_eq_none_iff.mp lookup)
    | some value => exact ⟨value, lookup, Ordered.mem_of_get? lookup⟩
  have text : ∀ name value, (name, value) ∈ values → name ∈ directoryNames →
      (Place.ofJson value).IsNormal := by
    intro name value member directory
    have kind := directories name value member directory
    have plain := (storable name value member).plain
    cases value with
    | string letters => exact Place.isNormal_parse (by rwa [Json.plain] at plain)
    | _ => cases kind
  have incomplete : Json.memberOf? completionName values = none := by
    rw [Json.memberOf?, Ordered.get?_eq_none_iff, entries]
    decide
  obtain ⟨helpers, helpersFound, helpersIn⟩ := found "helper_dir" (by decide)
  obtain ⟨word, wordFound, wordIn⟩ := found "pipe_prefix" (by decide)
  obtain ⟨channels, channelsFound, channelsIn⟩ := found "pipe_dir" (by decide)
  obtain ⟨instances, instancesFound, instancesIn⟩ := found "pipe_max_instances" (by decide)
  obtain ⟨buffer, bufferFound, bufferIn⟩ := found "pipe_buffer_size" (by decide)
  obtain ⟨timeout, timeoutFound, timeoutIn⟩ := found "pipe_timeout_ms" (by decide)
  rw [ofTable, incomplete, helpersFound, wordFound, channelsFound, instancesFound, bufferFound,
    timeoutFound] at made
  cases made
  refine ⟨text _ _ helpersIn (by decide), text _ _ channelsIn (by decide), told, ?_⟩
  simp only [List.forall_mem_cons]
  exact ⟨storable _ _ wordIn, storable _ _ instancesIn, storable _ _ bufferIn,
    storable _ _ timeoutIn, List.forall_mem_nil _⟩

/-- The table has text for the directories. -/
theorem kind_of_directory {name : List Letter} {value : Json}
    (member : (name, value) ∈ settings.table) (directory : name ∈ directoryNames) :
    value.kind = .string := by
  simp only [Settings.table, List.mem_cons, Prod.mk.injEq, List.not_mem_nil, or_false] at member
  rcases member with ⟨-, rfl⟩ | ⟨rfl, -⟩ | ⟨-, rfl⟩ | ⟨rfl, -⟩ | ⟨rfl, -⟩ | ⟨rfl, -⟩
  · rfl
  · exact absurd directory (by decide)
  · rfl
  · exact absurd directory (by decide)
  · exact absurd directory (by decide)
  · exact absurd directory (by decide)

/-- Ordinary members leave a storable table, if they are written into one. -/
theorem assignAll_storable (stored : base.Storable depth) {members : Table}
    (readable : ∀ name value, (name, value) ∈ members → Json.Readable depth value)
    (ordinary : ∀ member ∈ members, IsOrdinaryMember member.1 member.2)
    (assigned : assignAll base.table members = .ok values)
    {verbose : Json} (told : Json.Storable (depth + 1) verbose)
    (made : ofTable base verbose values = .ok settings) : settings.Storable depth := by
  obtain ⟨entries, origin⟩ :=
    assignAll_unreserved (fun member inside => (ordinary member inside).unreserved)
      (keys_table base) assigned
  refine ofTable_storable entries (fun name value member => ?_)
    (fun name value member directory => ?_) told made
  · rcases origin (name, value) member with older | new
    · exact stored.table older
    · exact ⟨readable name value new, (ordinary _ new).plain⟩
  · rcases origin (name, value) member with older | new
    · exact kind_of_directory older directory
    · exact (ordinary _ new).text directory

/-- An ordinary document leaves storable settings, if it is put on top of such. -/
theorem ofDocument_storable (stored : base.Storable depth) {document : Json}
    (readable : Json.Readable (depth + 2) document) (ordinary : IsOrdinary document)
    (made : ofDocument base document = .ok settings) : settings.Storable depth := by
  cases document with
  | object members =>
      cases readable with
      | object _ inside =>
          have told : Json.Storable (depth + 1)
              ((Json.memberOf? "verbose" members).getD base.verbose) := by
            cases said : Json.memberOf? "verbose" members with
            | none => exact stored.verbose
            | some value =>
                exact ⟨inside _ value (Ordered.mem_of_get? said), ordinary.verbose value said⟩
          have channels := ordinary.channels
          rw [ofDocument] at made
          split at made
          · cases made
            exact { stored with verbose := told }
          · rename_i values said
            rw [channelMembers, said] at channels
            split at made
            · rename_i assigned
              cases inside _ _ (Ordered.mem_of_get? said) with
              | object _ within => exact assignAll_storable stored within channels assigned told made
            · cases made
          · cases made
  | list items =>
      rw [ofDocument] at made
      split at made
      · cases made
      · cases made
        exact stored
  | string letters =>
      rw [ofDocument] at made
      split at made
      · cases made
      · cases made
        exact stored
  | _ => cases made

/-- Settings that were loaded from an ordinary file come back when they are saved and loaded
again, on top of whatever other settings, and are written as they were; both directories are
paths in normal form.  The reader has to go down the two levels of a settings file. -/
theorem loaded_settings_survive_saving {depth : Nat} (levels : 2 ≤ depth)
    (home temporary text : String) {document : Json} {settings : Settings}
    (parsed : readDocument depth text = .ok document) (ordinary : IsOrdinary document)
    (loaded : load depth (initial home temporary) text = .ok settings) :
    (∀ other, ∃ again, load depth other settings.save = .ok again ∧
      again = settings ∧ again.save = settings.save) ∧
    ∃ helpers channels : Path Letter,
      settings.helperDirectory = .path helpers ∧ helpers.IsNormal ∧
      settings.channelDirectory = .path channels ∧ channels.IsNormal := by
  obtain ⟨depth, rfl⟩ : ∃ inner, depth = inner + 2 := ⟨depth - 2, by omega⟩
  have readable : Json.Readable (depth + 2) document := by
    rw [readDocument] at parsed
    split at parsed
    · rename_i read
      cases parsed
      exact Json.read_readable read
    · cases parsed
  have made : ofDocument (initial home temporary) document = .ok settings := by
    rw [load, parsed] at loaded
    exact loaded
  have storable : settings.Storable depth :=
    ofDocument_storable (initial_storable depth home temporary) readable ordinary made
  obtain ⟨helpers, helperPath, helpersNormal⟩ := storable.helperDirectory.path
  obtain ⟨channels, channelPath, channelsNormal⟩ := storable.channelDirectory.path
  exact ⟨fun other => ⟨settings, storable.load_save other, rfl, rfl⟩,
    helpers, channels, helperPath, helpersNormal, channelPath, channelsNormal⟩

/-- A settings file with escapes, a name that comes twice, and paths that are not in normal
form. -/
def nestedText : String :=
  "\x7b\"verbose\": [1, \x7b\"\\u00e9\\ud83d\\ude00\": null\x7d]," ++
    "\"extcap\": \x7b\"helper_dir\": \"a//./b/..\", \"pipe_dir\": \"\"," ++
    "\"pipe_prefix\": 1, \"pipe_prefix\": \x7b\"\\n\": [true, -12]\x7d, \"other\": 7\x7d\x7d"

/-- The value that the file is. -/
def nestedDocument : Json :=
  .object
    [ (wide "verbose".toList, .list [.integer 1, .object [(wide "é😀".toList, .null)]]),
      (wide "extcap".toList,
        .object
          [ (wide "helper_dir".toList, .ofString "a//./b/.."),
            (wide "pipe_dir".toList, .ofString ""),
            (wide "pipe_prefix".toList,
              .object [(wide "\n".toList, .list [.bool true, .integer (-12)])]),
            (wide "other".toList, .integer 7) ]) ]

/-- The settings in the file. -/
def nestedSettings : Settings where
  verbose := .list [.integer 1, .object [(wide "é😀".toList, .null)]]
  helperDirectory := .path ⟨0, [wide "a".toList, wide "b".toList, wide "..".toList]⟩
  channelWord := .object [(wide "\n".toList, .list [.bool true, .integer (-12)])]
  channelDirectory := .path ⟨0, []⟩
  pipeInstances := .integer 5
  pipeBuffer := .integer 65536
  pipeTimeout := .integer 300

theorem nestedDocument_isOrdinary : IsOrdinary nestedDocument :=
  ⟨by decide, by decide⟩

theorem nested_settings_survive_saving :
    2 ≤ 5 ∧ readDocument 5 nestedText = .ok nestedDocument ∧ IsOrdinary nestedDocument ∧
      load 5 (initial "/home/user" "/tmp") nestedText = .ok nestedSettings ∧
      (∀ other, ∃ again, load 5 other nestedSettings.save = .ok again ∧
        again = nestedSettings ∧ again.save = nestedSettings.save) ∧
      ∃ helpers channels : Path Letter,
        nestedSettings.helperDirectory = .path helpers ∧ helpers.IsNormal ∧
        nestedSettings.channelDirectory = .path channels ∧ channels.IsNormal := by
  have parsed : readDocument 5 nestedText = .ok nestedDocument := by cbv
  have loaded : load 5 (initial "/home/user" "/tmp") nestedText = .ok nestedSettings := by
    rw [load, parsed]
    rfl
  exact ⟨by decide, parsed, nestedDocument_isOrdinary, loaded,
    loaded_settings_survive_saving (by decide) "/home/user" "/tmp" nestedText parsed
      nestedDocument_isOrdinary loaded⟩

end Settings

end ExtcapHost
