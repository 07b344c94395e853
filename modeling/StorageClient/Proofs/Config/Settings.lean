import StorageClient.Config.Document
import StorageClient.Proofs.Text.Grammar
import Mathlib.Data.List.Nodup
/-!
# StorageClient.Proofs.Config.Settings

What the documents of a client set. A setting is looked up by the name of its member, so neither
the order of the members matters nor what else is among them, and a setting that is not given has
its default (`ofJson_given`). The document of some settings gives all of them, so it gives them
back.

A capacity is read like every other setting, and it is looked at when all of them have been read
(`exists_ofJson_fill`). So a document with the capacity 0 is refused as invalid exactly if another
capacity would make it a good one; a document with something else wrong is malformed.

All is said about texts: `Json.TextOf` has every text of a document, however it is laid out.
-/

namespace StorageClient

namespace Config

open Json (TextOf keyed)

/-! ### The settings one by one -/

/-- What a document may set. -/
inductive Setting
  | capacity
  | abort
  | send
  | level
  deriving DecidableEq

namespace Setting

/-- The settings in the order of a document. -/
def all : List Setting := [capacity, abort, send, level]

/-- The name of the member that gives a setting. -/
def member : Setting → String
  | capacity => capacityMember
  | abort => abortMember
  | send => sendMember
  | level => levelMember

/-- What a member gives for a setting. -/
def value (config : Config) : Setting → Json
  | capacity => .ofNat config.initialCapacity
  | abort => .ofText config.abort.keyword
  | send => .ofText config.send.keyword
  | level => .ofText config.logLevel.keyword

/-- The member that gives a setting. -/
def entry (config : Config) (s : Setting) : String × Json := (s.member, s.value config)

theorem member_injective {s t : Setting} (same : s.member = t.member) : s = t := by
  revert same
  cases s <;> cases t <;> decide

/-- What a member gives is written as one of its texts. -/
theorem spelled_value (config : Config) (s : Setting) :
    Json.Spelled (s.value config) (s.value config).write := by
  have spelledText (text : String) : Json.Spelled (.ofText text) (Json.ofText text).write :=
    .string (Json.spelled_quote text)
  cases s with
  | capacity => exact .number (Json.number_toDigits _)
  | abort => exact spelledText _
  | send => exact spelledText _
  | level => exact spelledText _

end Setting

/-- The listed settings of `config`. The others have their defaults. -/
def keep (config : Config) (listed : List Setting) : Config where
  initialCapacity :=
    if .capacity ∈ listed then config.initialCapacity else default.initialCapacity
  abort := if .abort ∈ listed then config.abort else default.abort
  send := if .send ∈ listed then config.send else default.send
  logLevel := if .level ∈ listed then config.logLevel else default.logLevel

theorem keep_all (config : Config) : config.keep Setting.all = config := rfl

theorem toJson_eq (config : Config) :
    config.toJson = .object (keyed (Setting.all.map (Setting.entry config))) := rfl

theorem textOf_document (config : Config) : TextOf config.toJson config.document := by
  rw [document, toJson_eq]
  refine Json.textOf_render_keyed fun entry mem => ?_
  obtain ⟨s, -, rfl⟩ := List.mem_map.mp mem
  exact s.spelled_value config

/-! ### Reading a value -/

theorem readCapacity_ofNat {n : Nat} (small : n < UInt64.size) :
    readCapacity (.ofNat n) = some n := by
  simp [readCapacity, Json.natural?_ofNat, small]

/-- A word is read as what it is the word of. -/
theorem readWord_ofText {α : Type} {all : List α} {keyword : α → String} {a : α} (mem : a ∈ all)
    (distinct : ∀ b ∈ all, keyword b = keyword a → b = a) :
    readWord all keyword (.ofText (keyword a)) = some a := by
  have found : (all.find? fun b => keyword b == keyword a).isSome := by
    rw [List.find?_isSome]
    exact ⟨a, mem, beq_self_eq_true _⟩
  obtain ⟨b, same⟩ := Option.isSome_iff_exists.mp found
  have isWord : keyword b = keyword a := by simpa using List.find?_some same
  exact same.trans (congrArg some (distinct b (List.mem_of_find?_eq_some same) isWord))

theorem readWord_abort (a : AbortOption) :
    readWord AbortOption.all AbortOption.keyword (.ofText a.keyword) = some a :=
  readWord_ofText (by cases a <;> decide) (by cases a <;> decide)

theorem readWord_send (s : SendPolicy) :
    readWord SendPolicy.all SendPolicy.keyword (.ofText s.keyword) = some s :=
  readWord_ofText (by cases s <;> decide) (by cases s <;> decide)

theorem readWord_level (s : Severity) :
    readWord Severity.all Severity.keyword (.ofText s.keyword) = some s :=
  readWord_ofText s.mem_all (by cases s <;> decide)

/-- A setting is given once or not at all. -/
theorem readOnce_ite {α : Type} {default value : α} {read : Json → Option α} {json : Json}
    (reads : read json = some value) (given : Prop) [Decidable given] :
    readOnce default read (if given then [json] else []) =
      some (if given then value else default) := by
  split
  · exact reads
  · rfl

/-- No setting is given twice. -/
theorem readOnce_eq_none {α : Type} {default : α} {read : Json → Option α} {values : List Json}
    (twice : 1 < values.length) : readOnce default read values = none := by
  match values with
  | _ :: _ :: _ => rfl

/-! ### Reading members -/

section

variable (config : Config) {listed : List Setting} {others members : List (String × Json)}

theorem valuesOf_eq_nil {name : String} (foreign : ∀ other ∈ others, other.1 ≠ name) :
    valuesOf (keyed others) name = [] := by
  simp only [valuesOf, keyed, List.filterMap_map, List.filterMap_eq_nil_iff]
  intro other mem
  simp [foreign other mem]

theorem valuesOf_listed (once : listed.Nodup) (s : Setting) :
    valuesOf (keyed (listed.map (Setting.entry config))) s.member =
      if s ∈ listed then [s.value config] else [] := by
  induction listed with
  | nil => rfl
  | cons t listed ih =>
    obtain ⟨fresh, once⟩ := List.nodup_cons.mp once
    have rest := ih once
    by_cases same : t = s
    · subst same
      simp_all [valuesOf, keyed, Setting.entry]
    · have other : t.member ≠ s.member := fun h => same (Setting.member_injective h)
      have differs : s ≠ t := fun h => same h.symm
      simp_all [valuesOf, keyed, Setting.entry]

/-- The values that are given for a setting do not depend on the order of the members, nor on
members of other names. -/
theorem valuesOf_given (once : listed.Nodup)
    (foreign : ∀ other ∈ others, ∀ s : Setting, other.1 ≠ s.member)
    (given : members.Perm (listed.map (Setting.entry config) ++ others)) (s : Setting) :
    valuesOf (keyed members) s.member = if s ∈ listed then [s.value config] else [] := by
  have inOrder : valuesOf (keyed (listed.map (Setting.entry config) ++ others)) s.member =
      if s ∈ listed then [s.value config] else [] := by
    have noOthers := valuesOf_eq_nil fun other mem => foreign other mem s
    simp only [keyed, List.map_append, valuesOf, List.filterMap_append] at noOthers ⊢
    rw [noOthers, List.append_nil]
    exact valuesOf_listed config once s
  have perm : (valuesOf (keyed members) s.member).Perm
      (valuesOf (keyed (listed.map (Setting.entry config) ++ others)) s.member) :=
    (given.map _).filterMap _
  -- At most one value is given, so there is but one order.
  rw [inOrder] at perm
  split at perm <;> rename_i mem
  · exact (if_pos mem).symm ▸ List.perm_singleton.mp perm
  · exact (if_neg mem).symm ▸ List.perm_nil.mp perm

variable {config}

theorem ofValues_given (small : config.initialCapacity < UInt64.size)
    {values : String → List Json}
    (given : ∀ s : Setting, values s.member = if s ∈ listed then [s.value config] else []) :
    ofValues values = some (config.keep listed) := by
  have capacity := given .capacity
  have abort := given .abort
  have send := given .send
  have level := given .level
  simp only [Setting.member, Setting.value] at capacity abort send level
  simp only [ofValues, capacity, abort, send, level, readOnce_ite (readCapacity_ofNat small),
    readOnce_ite (readWord_abort _), readOnce_ite (readWord_send _),
    readOnce_ite (readWord_level _)]
  rfl

theorem ofJson_object (members : List (Option String × Json)) :
    ofJson (.object members) =
      if members.all fun member => member.1.isSome then ofValues (valuesOf members) else none :=
  rfl

theorem ofJson_given (small : config.initialCapacity < UInt64.size) (once : listed.Nodup)
    (foreign : ∀ other ∈ others, ∀ s : Setting, other.1 ≠ s.member)
    (given : members.Perm (listed.map (Setting.entry config) ++ others)) :
    ofJson (.object (keyed members)) = some (config.keep listed) := by
  have named : (keyed members).all (fun member => member.1.isSome) = true := by simp [keyed]
  rw [ofJson_object, if_pos named]
  exact ofValues_given small (valuesOf_given config once foreign given)

end

/-! ### Filling in a capacity -/

/-- A document whose capacity is yet to be filled in. In an array it comes first. -/
inductive Draft
  | object (before after : List (Option String × Json))
  | array (after : List Json)

/-- The document with a capacity. -/
def Draft.fill : Draft → Nat → Json
  | object before after, n => .object (before ++ (some capacityMember, .ofNat n) :: after)
  | array after, n => .array (.ofNat n :: after)

/-- The capacity is read apart from the other settings. -/
theorem ofValues_eq (values : String → List Json) :
    ofValues values =
      (readOnce default.initialCapacity readCapacity (values capacityMember)).bind fun n =>
        (ofValues fun name => if name = capacityMember then [] else values name).map
          fun config => { config with initialCapacity := n } := by
  have abort : abortMember ≠ capacityMember := by decide
  have send : sendMember ≠ capacityMember := by decide
  have level : levelMember ≠ capacityMember := by decide
  simp only [ofValues, if_true, if_neg abort, if_neg send, if_neg level]
  cases readOnce default.initialCapacity readCapacity (values capacityMember) with
  | none => rfl
  | some n =>
    cases readOnce default.abort (readWord _ _) (values abortMember) with
    | none => rfl
    | some _ =>
      cases readOnce default.send (readWord _ _) (values sendMember) with
      | none => rfl
      | some _ => cases readOnce default.logLevel (readWord _ _) (values levelMember) <;> rfl

theorem exists_ofValues_fill (before after : List (Option String × Json)) :
    ∃ rest : Option Config, ∀ n < UInt64.size,
      ofValues (valuesOf (before ++ (some capacityMember, .ofNat n) :: after)) =
        rest.map fun config => { config with initialCapacity := n } := by
  have capacities (n : Nat) :
      valuesOf (before ++ (some capacityMember, .ofNat n) :: after) capacityMember =
        valuesOf before capacityMember ++ .ofNat n :: valuesOf after capacityMember := by
    simp [valuesOf]
  have others (n : Nat) :
      (fun name => if name = capacityMember then [] else
        valuesOf (before ++ (some capacityMember, .ofNat n) :: after) name) =
      fun name => if name = capacityMember then [] else
        valuesOf before name ++ valuesOf after name := by
    funext name
    split
    · rfl
    · rename_i other
      simp [valuesOf, Ne.symm other]
  by_cases once : valuesOf before capacityMember = [] ∧ valuesOf after capacityMember = []
  · refine ⟨ofValues fun name => if name = capacityMember then [] else
      valuesOf before name ++ valuesOf after name, fun n small => ?_⟩
    rw [ofValues_eq, capacities, others, once.1, once.2]
    simp [readOnce, readCapacity_ofNat small]
  · refine ⟨none, fun n _ => ?_⟩
    have twice : 1 < (valuesOf before capacityMember ++
        Json.ofNat n :: valuesOf after capacityMember).length := by
      simp only [← List.length_eq_zero_iff] at once
      simp only [List.length_append, List.length_cons]
      omega
    rw [ofValues_eq, capacities, readOnce_eq_none twice]
    rfl

/-- The capacity that is filled in is read, and nothing else depends on it. -/
theorem exists_ofJson_fill (draft : Draft) :
    ∃ rest : Option Config, ∀ n < UInt64.size,
      ofJson (draft.fill n) = rest.map fun config => { config with initialCapacity := n } := by
  cases draft with
  | object before after =>
    obtain ⟨rest, reads⟩ := exists_ofValues_fill before after
    refine ⟨if (before ++ after).all fun member => member.1.isSome then rest else none,
      fun n small => ?_⟩
    have keys : ((before ++ (some capacityMember, Json.ofNat n) :: after).all
        fun member => member.1.isSome) = (before ++ after).all fun member => member.1.isSome := by
      simp
    rw [Draft.fill, ofJson_object, keys, reads n small]
    split <;> rfl
  | array after =>
    obtain ⟨rest, reads⟩ :=
      exists_ofValues_fill [] (([abortMember, sendMember, levelMember].map some).zip after)
    refine ⟨if after.length + 1 ≤ memberNames.length then rest else none, fun n small => ?_⟩
    have read : ofJson (.array (.ofNat n :: after)) =
        if after.length + 1 ≤ memberNames.length then
          ofValues (valuesOf ((some capacityMember, .ofNat n) ::
            ([abortMember, sendMember, levelMember].map some).zip after))
        else none := rfl
    rw [Draft.fill, read, ← List.nil_append (_ :: _), reads n small]
    split <;> rfl

/-! ### Reading texts -/

section

variable {document : Json} {text : String} {config : Config}

theorem parse_of_pos (isText : TextOf document text) (read : ofJson document = some config)
    (positive : 0 < config.initialCapacity) : parse text = .ok config := by
  have valid : config.validate = .ok () := if_neg (Nat.ne_of_gt positive)
  simp only [parse, Json.parse_eq_some_iff.mpr isText, Option.bind_some, read, valid]
  rfl

theorem parse_of_zero (isText : TextOf document text) (read : ofJson document = some config)
    (zero : config.initialCapacity = 0) :
    parse text = .error (.invalid capacityMember "must be > 0") := by
  have invalid : config.validate = .error (.invalid capacityMember "must be > 0") := if_pos zero
  simp only [parse, Json.parse_eq_some_iff.mpr isText, Option.bind_some, read, invalid]
  rfl

theorem parse_of_unread (isText : TextOf document text) (unread : ofJson document = none) :
    parse text = .error .malformed := by
  simp only [parse, Json.parse_eq_some_iff.mpr isText, Option.bind_some, unread]

/-- Listed settings are taken from the text of a document that gives them, whatever else it
holds. -/
theorem parse_given (positive : 0 < config.initialCapacity)
    (small : config.initialCapacity < UInt64.size) {listed : List Setting}
    {others members : List (String × Json)} (once : listed.Nodup)
    (foreign : ∀ other ∈ others, ∀ s : Setting, other.1 ≠ s.member)
    (given : members.Perm (listed.map (Setting.entry config) ++ others))
    (isText : TextOf (.object (keyed members)) text) :
    parse text = .ok (config.keep listed) := by
  refine parse_of_pos isText (ofJson_given small once foreign given) ?_
  simp only [keep]
  split
  · exact positive
  · decide

end

/-- **Documents set what they give.** The document of some settings gives them back. A document
that gives some of them, each once, in any order and among any members of other names, sets these,
and the others have their defaults. A document that gives the capacity 0 is refused as invalid
exactly if it would be read with a capacity of another size, whatever else it holds. -/
theorem settings_of_documents :
    (∀ config : Config, 0 < config.initialCapacity → config.initialCapacity < UInt64.size →
      parse config.document = .ok config ∧
      ∀ (listed : List Setting) (others members : List (String × Json)) (text : String),
        listed.Nodup → (∀ other ∈ others, ∀ s : Setting, other.1 ≠ s.member) →
        members.Perm (listed.map (Setting.entry config) ++ others) →
        TextOf (.object (keyed members)) text → parse text = .ok (config.keep listed)) ∧
    ∀ (draft : Draft) (n : Nat) (text filled : String), 0 < n → n < UInt64.size →
      TextOf (draft.fill 0) text → TextOf (draft.fill n) filled →
      (parse text = .error (.invalid capacityMember "must be > 0") ↔
        ∃ config, parse filled = .ok config) := by
  refine ⟨fun config positive small => ⟨?back, ?some⟩, ?zero⟩
  case back =>
    have given : (Setting.all.map (Setting.entry config)).Perm
        (Setting.all.map (Setting.entry config) ++ []) := by
      rw [List.append_nil]
    have all := parse_given positive small (by decide) (fun _ mem => absurd mem List.not_mem_nil)
      given (toJson_eq config ▸ textOf_document config)
    rwa [keep_all] at all
  case some =>
    intro listed others members text once foreign given isText
    exact parse_given positive small once foreign given isText
  case zero =>
    intro draft n text filled positive small isText isFilled
    obtain ⟨rest, reads⟩ := exists_ofJson_fill draft
    have readText := reads 0 (by decide)
    have readFilled := reads n small
    cases rest with
    | none =>
      rw [parse_of_unread isText readText, parse_of_unread isFilled readFilled]
      simp
    | some config =>
      rw [parse_of_zero isText readText rfl, parse_of_pos isFilled readFilled positive]
      simp

/-- A document in full, one that gives two of the settings behind a member of another name, and the
same with the capacity 0. -/
theorem settings_of_documents_warn :
    parse (document ⟨16, .ignoreError, .force, .warn⟩) =
      .ok ⟨16, .ignoreError, .force, .warn⟩ ∧
    parse "\x7b\"note\":[],\"log_level\":\"warn\",\"initial_result_capacity\":16\x7d" =
      .ok ⟨16, .operationDefault, .deferred, .warn⟩ ∧
    parse "\x7b\"note\":[],\"log_level\":\"warn\",\"initial_result_capacity\":0\x7d" =
      .error (.invalid capacityMember "must be > 0") := by
  obtain ⟨given, zero⟩ := settings_of_documents
  obtain ⟨back, part⟩ := given ⟨16, .ignoreError, .force, .warn⟩ (by decide) (by decide)
  have written (n : Nat) := @Json.textOf_render_keyed
    [("note", .array []), (levelMember, .ofText "warn"), (capacityMember, .ofNat n)] <| by
      simp only [List.forall_mem_cons, List.not_mem_nil, false_implies, implies_true, and_true]
      exact ⟨.emptyArray Json.blanks_nil, .string (Json.spelled_quote "warn"),
        .number (Json.number_toDigits n)⟩
  have foreign : ∀ other ∈ [("note", Json.array [])], ∀ s : Setting, other.1 ≠ s.member := by
    intro other mem s
    obtain rfl := List.mem_singleton.mp mem
    cases s <;> decide
  have filled := part [.level, .capacity] _ _ _ (by decide) foreign List.perm_append_comm
    (written 16)
  have refused := (zero (.object [(some "note", .array []), (some levelMember, .ofText "warn")] [])
    16 _ _ (by decide) (by decide) (written 0) (written 16)).mpr ⟨_, filled⟩
  exact ⟨back, filled, refused⟩

end Config

end StorageClient
