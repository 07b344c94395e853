import StorageClient.Telemetry.Line
import StorageClient.Proofs.Text.Grammar
import Mathlib.Data.List.Nodup
import Mathlib.Data.List.TakeWhile
/-!
# StorageClient.Proofs.Telemetry.Lines

A written line can be decoded: whatever texts a caller logs, the line is one JSON object and a line
feed, and a strict reader gets the texts back, member after member (`parse_written`).

* `Json.ofMembers`: the object that a line stands for.
* `StablySorted`: what the order of the fields is meant to be. It leaves no choice, so the line is
  a function of the severity, the event and this order, and different ones are written
  differently.
-/

namespace StorageClient

open Text.JsonString

/-! ### Objects of texts -/

namespace Json

/-- An object whose members are texts. -/
def ofMembers (members : List (String × String)) : Json :=
  .object (members.map fun member => (some member.1, ofText member.2))

theorem ofMembers_injective {members members' : List (String × String)}
    (same : ofMembers members = ofMembers members') : members = members' := by
  refine List.map_injective_iff.mpr ?_ (Json.object.inj same)
  rintro ⟨key, value⟩ ⟨key', value'⟩ same
  simpa [ofText] using same

/-- A member of a line spells a member of its object. -/
theorem memberSpelled_member (key value : String) :
    MemberSpelled (some key, ofText value) (Line.member key value) := by
  have text := Spelled.string (spelled_quote value)
  have whole := MemberSpelled.mk blanks_nil (spelled_quote key) blanks_nil text.padded
  rwa [List.nil_append, List.append_nil] at whole

/-- Members with commas between them spell the members of an object. -/
theorem membersSpelled_members (first : String × String) (others : List (String × String)) :
    MembersSpelled ((first :: others).map fun member => (some member.1, ofText member.2))
      (Line.member first.1 first.2 ++
        others.flatMap fun member => ',' :: Line.member member.1 member.2) := by
  induction others generalizing first with
  | nil =>
    rw [List.flatMap_nil, List.append_nil]
    exact .last (memberSpelled_member ..)
  | cons second others ih => exact .comma (memberSpelled_member ..) (ih second)

end Json

namespace Line

/-! ### The order of the fields -/

/-- `sorted` is `fields` in the order of the keys, where fields of one key keep their order. -/
structure StablySorted (fields sorted : List (String × String)) : Prop where
  perm : sorted.Perm fields
  ordered : sorted.Pairwise fun a b => a.1 ≤ b.1
  stable : ∀ key, (sorted.filter fun field => field.1 = key) =
    fields.filter fun field => field.1 = key

/-- The comparison that the fields of a line are sorted by. -/
def keyLE (a b : String × String) : Bool := decide (a.1 ≤ b.1)

theorem keyLE_iff {a b : String × String} : keyLE a b = true ↔ a.1 ≤ b.1 := decide_eq_true_iff

theorem keyLE_trans (a b c : String × String) (ab : keyLE a b = true) (bc : keyLE b c = true) :
    keyLE a c = true :=
  keyLE_iff.mpr (String.le_trans (keyLE_iff.mp ab) (keyLE_iff.mp bc))

theorem keyLE_total (a b : String × String) : (keyLE a b || keyLE b a) = true := by
  simpa only [Bool.or_eq_true, keyLE_iff] using String.le_total a.1 b.1

theorem stablySorted_sortFields (fields : List (String × String)) :
    StablySorted fields (sortFields fields) := by
  have perm : (sortFields fields).Perm fields := List.mergeSort_perm fields keyLE
  refine ⟨perm, ?_, fun key => ?_⟩
  · exact (List.pairwise_mergeSort keyLE_trans keyLE_total fields).imp keyLE_iff.mp
  · -- Fields of one key are in order as they stand, so the sort keeps them as a sublist.
    have inOrder : (fields.filter fun field => field.1 = key).Pairwise
        fun a b => keyLE a b = true := by
      refine List.pairwise_of_forall_mem_list fun a memA b memB => keyLE_iff.mpr ?_
      have keyA : a.1 = key := of_decide_eq_true (List.mem_filter.mp memA).2
      have keyB : b.1 = key := of_decide_eq_true (List.mem_filter.mp memB).2
      exact keyA.trans keyB.symm ▸ String.le_refl _
    have kept : (fields.filter fun field => field.1 = key).Sublist (sortFields fields) :=
      List.sublist_mergeSort keyLE_trans keyLE_total inOrder List.filter_sublist
    have within := kept.filter fun field => field.1 = key
    simp only [List.filter_filter, Bool.and_self] at within
    exact (within.eq_of_length (perm.filter _).length_eq.symm).symm

/-- Sorted fields are known from the fields of each key. -/
theorem eq_of_filter_eq {fields fields' : List (String × String)}
    (ordered : fields.Pairwise fun a b => a.1 ≤ b.1)
    (ordered' : fields'.Pairwise fun a b => a.1 ≤ b.1)
    (same : ∀ key, (fields.filter fun field => field.1 = key) =
      fields'.filter fun field => field.1 = key) :
    fields = fields' := by
  induction fields generalizing fields' with
  | nil =>
    refine (List.eq_nil_iff_forall_not_mem.mpr fun field mem => ?_).symm
    have found : field ∈ fields'.filter fun other => other.1 = field.1 :=
      List.mem_filter.mpr ⟨mem, decide_eq_true rfl⟩
    rw [← same] at found
    exact List.not_mem_nil found
  | cons first fields ih =>
    have mem_iff : ∀ field, field ∈ first :: fields ↔ field ∈ fields' := fun field => by
      simpa using congrArg (field ∈ ·) (same field.1)
    obtain _ | ⟨first', fields'⟩ := fields'
    · exact absurd ((mem_iff first).mp (List.mem_cons_self ..)) List.not_mem_nil
    obtain ⟨least, orderedTail⟩ := List.pairwise_cons.mp ordered
    obtain ⟨least', orderedTail'⟩ := List.pairwise_cons.mp ordered'
    -- Both heads have the least key, so they head the fields of one key.
    have below : first.1 ≤ first'.1 := by
      obtain eq | mem := List.mem_cons.mp ((mem_iff first').mpr (List.mem_cons_self ..))
      · exact eq ▸ String.le_refl _
      · exact least first' mem
    have below' : first'.1 ≤ first.1 := by
      obtain eq | mem := List.mem_cons.mp ((mem_iff first).mp (List.mem_cons_self ..))
      · exact eq ▸ String.le_refl _
      · exact least' first mem
    have heads := same first.1
    simp only [List.filter_cons, decide_true, if_true, String.le_antisymm below' below,
      List.cons.injEq] at heads
    obtain rfl := heads.1
    refine congrArg (first :: ·) (ih orderedTail orderedTail' fun key => ?_)
    have tails := same key
    simp only [List.filter_cons] at tails
    split at tails
    · exact List.tail_eq_of_cons_eq tails
    · exact tails

/-- The order leaves no choice. -/
theorem stablySorted_iff {fields sorted : List (String × String)} :
    StablySorted fields sorted ↔ sorted = sortFields fields := by
  have sorts := stablySorted_sortFields fields
  refine ⟨fun other => ?_, fun same => same ▸ sorts⟩
  exact eq_of_filter_eq other.ordered sorts.ordered fun key =>
    (other.stable key).trans (sorts.stable key).symm

/-- If no two fields share their key, the order they are given in does not matter. -/
theorem sortFields_perm {fields fields' : List (String × String)} (perm : fields.Perm fields')
    (distinct : (fields.map Prod.fst).Nodup) : sortFields fields = sortFields fields' := by
  have sorts := stablySorted_sortFields fields
  have sorts' := stablySorted_sortFields fields'
  refine List.Perm.eq_of_pairwise (fun a b memA memB below above => ?_) sorts.ordered
    sorts'.ordered ((sorts.perm.trans perm).trans sorts'.perm.symm)
  have inA : a ∈ fields := sorts.perm.mem_iff.mp memA
  have inB : b ∈ fields := perm.mem_iff.mpr (sorts'.perm.mem_iff.mp memB)
  exact List.inj_on_of_nodup_map distinct inA inB (String.le_antisymm below above)

/-! ### The line -/

/-- The members of a line in the order they are written. -/
def members (severity : Severity) (event : String) (fields : List (String × String)) :
    List (String × String) :=
  ("event", event) :: ("severity", severity.name) :: sortFields fields

theorem name_injective {severity severity' : Severity} (same : severity.name = severity'.name) :
    severity = severity' := by
  revert same
  cases severity <;> cases severity' <;> decide

theorem members_injective {severity severity' : Severity} {event event' : String}
    {fields fields' : List (String × String)}
    (same : members severity event fields = members severity' event' fields') :
    severity = severity' ∧ event = event' ∧ sortFields fields = sortFields fields' := by
  simp only [members, List.cons.injEq, Prod.mk.injEq, true_and] at same
  exact ⟨name_injective same.2.1, same.1, same.2.2⟩

theorem toList_encode (severity : Severity) (event : String) (fields : List (String × String)) :
    (encode severity event fields).toList =
      '\x7b' :: (member "event" event ++
        ((("severity", severity.name) :: sortFields fields).flatMap fun field =>
          ',' :: member field.1 field.2) ++ ['\x7d']) := by
  simp [encode]

theorem isControl_of_mem_member {key value : String} {c : Char} (mem : c ∈ member key value) :
    isControl c = false := by
  simp only [member, List.mem_append, List.mem_cons] at mem
  obtain mem | rfl | mem := mem
  · exact isControl_of_mem_quote mem
  · rfl
  · exact isControl_of_mem_quote mem

theorem isControl_of_mem_encode {severity : Severity} {event : String}
    {fields : List (String × String)} {c : Char}
    (mem : c ∈ (encode severity event fields).toList) : isControl c = false := by
  rw [toList_encode] at mem
  simp only [List.mem_cons, List.mem_append, List.mem_flatMap, List.not_mem_nil, or_false] at mem
  obtain rfl | (mem | ⟨field, -, rfl | mem⟩) | rfl := mem
  · rfl
  · exact isControl_of_mem_member mem
  · rfl
  · exact isControl_of_mem_member mem
  · rfl

/-- A line spells its object. -/
theorem spelled_encode (severity : Severity) (event : String) (fields : List (String × String)) :
    Json.Spelled (.ofMembers (members severity event fields))
      (encode severity event fields).toList := by
  rw [toList_encode]
  exact .object (Json.membersSpelled_members ("event", event) _)

/-- Blanks may stand behind the object, as its line feed does. -/
theorem parse_encode (severity : Severity) (event : String) (fields : List (String × String))
    (blanks : List Char) (blank : blanks.all Json.isBlank) :
    Json.parse (String.ofList ((encode severity event fields).toList ++ blanks)) =
      some (.ofMembers (members severity event fields)) := by
  have object := spelled_encode severity event fields
  have padded := Json.Padded.mk Json.blanks_nil object (List.all_eq_true.mp blank)
  rw [List.nil_append] at padded
  rwa [Json.parse_eq_some_iff, Json.TextOf, String.toList_ofList]

theorem parse_written (severity : Severity) (event : String) (fields : List (String × String)) :
    Json.parse (written severity event fields) =
      some (.ofMembers (members severity event fields)) := by
  have read := parse_encode severity event fields ['\n'] rfl
  rwa [← String.toList_push, String.ofList_toList] at read

/-- Every line can be decoded. It is one object and a line feed, and no other control character. A
strict reader gets the members back in their order: the event, the name of the severity, and the
fields stably sorted by key. So two lines differ if their severities, their events or their sorted
fields do; and they do not if one has the fields of the other in another order, as long as no two
of them share a key. -/
theorem written_decodes (severity : Severity) (event : String) (fields : List (String × String)) :
    (written severity event fields).toList = (encode severity event fields).toList ++ ['\n'] ∧
    (∀ c ∈ (encode severity event fields).toList, isControl c = false) ∧
    Json.parse (encode severity event fields) = some (.ofMembers (members severity event fields)) ∧
    Json.parse (written severity event fields) = some (.ofMembers (members severity event fields)) ∧
    (∀ sorted, StablySorted fields sorted ↔ sorted = sortFields fields) ∧
    (∀ severity' event' fields', written severity event fields = written severity' event' fields' →
      severity = severity' ∧ event = event' ∧ sortFields fields = sortFields fields') ∧
    (∀ fields', fields.Perm fields' → (fields.map Prod.fst).Nodup →
      written severity event fields = written severity event fields') := by
  refine ⟨String.toList_push _, fun c => isControl_of_mem_encode, ?alone,
    parse_written severity event fields, fun _ => stablySorted_iff, ?different, ?same⟩
  case alone =>
    have read := parse_encode severity event fields [] rfl
    rwa [List.append_nil, String.ofList_toList] at read
  case different =>
    intro severity' event' fields' same
    have read := parse_written severity event fields
    rw [same, parse_written severity' event' fields'] at read
    exact members_injective (Json.ofMembers_injective (Option.some.inj read)).symm
  case same =>
    intro fields' perm distinct
    simp only [written, encode, sortFields_perm perm distinct]

/-- A line that tries to close its string, with its fields given in either order. -/
theorem written_decodes_orders :
    written .error "E" [("zeta", "1"), ("alpha", "bad \"key\",\n\\u0022")] =
      written .error "E" [("alpha", "bad \"key\",\n\\u0022"), ("zeta", "1")] ∧
    written .error "E" [("zeta", "1")] ≠ written .warn "E" [("zeta", "1")] :=
  ⟨(written_decodes .error "E" [("zeta", "1"), ("alpha", "bad \"key\",\n\\u0022")]).2.2.2.2.2.2 _
      (.swap _ _ _) (by decide),
    fun same => absurd ((written_decodes _ _ _).2.2.2.2.2.1 _ _ _ same).1 (by decide)⟩

end Line

end StorageClient
