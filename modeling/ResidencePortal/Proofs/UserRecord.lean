import ResidencePortal.Proofs.Json.RoundTrip
import ResidencePortal.User

/-!
# User records read back

A user record is written with the fields that it has. Both readers give it back: the reader of values
from any object that holds the fields, in whatever order and among whatever other keys, and the reader
of texts from the text that the session keeps.

**Results.**
* `User.ofEntries_eq_ok_iff`: which record is read from entries that give no field twice.
* `User.ofEntries_of_find?`: a record is determined by the look-ups of its fields.
* `User.ofJson_object`: an object that holds the fields of a record is read as that record.
* `User.ofText?_encode`: a record is read back from its text.
* `User.encodedAs_encode`: the text of a record is the JSON object of the fields that are present.
-/

namespace ResidencePortal

open Text

namespace User

/-! ## Fields -/

theorem Field.ofKey?_key (f : Field) : Field.ofKey? f.key = some f := by
  cases f <;> decide

theorem Field.key_eq_of_ofKey? {key : String} {f : Field} (h : Field.ofKey? key = some f) :
    f.key = key := by
  simpa using List.find?_some h

theorem Field.key_inj {f g : Field} (h : f.key = g.key) : f = g := by
  have hf := Field.ofKey?_key f
  rw [h, Field.ofKey?_key g] at hf
  exact (Option.some.inj hf).symm

theorem Field.mem_all (f : Field) : f ∈ Field.all := by
  cases f <;> decide

/-- Records with the same fields are equal. -/
theorem ext_get? {u w : User} (h : ∀ f, u.get? f = w.get? f) : u = w := by
  have htext : ∀ {a b : Option String}, a.map Json.str = b.map Json.str → a = b := by
    intro a b heq
    cases a <;> cases b <;> simp_all
  have hid : u.id = w.id := by
    have heq := h .id
    simp only [get?] at heq
    cases hu : u.id <;> cases hw : w.id <;> simp_all [Int64.toInt_inj]
  obtain ⟨_, _, _, _, _, _⟩ := u
  obtain ⟨_, _, _, _, _, _⟩ := w
  simp only [mk.injEq]
  exact ⟨hid, htext (h .loginName), htext (h .fullName), htext (h .duty), htext (h .role),
    htext (h .phone)⟩

/-! ## Values in fields -/

/-- What a field is set to by a value: a value in its written form, or nothing for null. Other values are
refused. -/
def readField : Field → Json → Option (Option Json)
  | .id, v => (integerField v).toOption.map fun x => x.map fun n => .num (.int n.toInt)
  | _, v => (textField v).toOption.map fun x => x.map .str

/-- Setting a field changes that field alone. -/
theorem set_of_readField {f : Field} {v : Json} {x : Option Json} (h : readField f v = some x) (u : User) :
    ∃ w, u.set f v = .ok w ∧ ∀ g, w.get? g = if g = f then x else u.get? g := by
  cases f with
  | id =>
    simp only [readField, set] at h ⊢
    cases hv : integerField v with
    | error e => rw [hv] at h; cases h
    | ok n =>
      rw [hv] at h
      cases h
      exact ⟨_, rfl, fun g => by cases g <;> rfl⟩
  | _ =>
    simp only [readField, set] at h ⊢
    cases hv : textField v with
    | error e => rw [hv] at h; cases h
    | ok s =>
      rw [hv] at h
      cases h
      exact ⟨_, rfl, fun g => by cases g <;> rfl⟩

theorem readField_of_set {u w : User} {f : Field} {v : Json} (h : u.set f v = .ok w) :
    readField f v = some (w.get? f) := by
  cases f with
  | id =>
    simp only [readField, set] at h ⊢
    cases hv : integerField v with
    | error e => rw [hv] at h; cases h
    | ok n => rw [hv] at h; cases h; rfl
  | _ =>
    simp only [readField, set] at h ⊢
    cases hv : textField v with
    | error e => rw [hv] at h; cases h
    | ok s => rw [hv] at h; cases h; rfl

/-- The value that a record has in a field is read as itself. -/
theorem readField_get? {u : User} {f : Field} {v : Json} (h : u.get? f = some v) :
    readField f v = some (some v) := by
  cases f with
  | id =>
    obtain ⟨n, -, rfl⟩ := Option.map_eq_some_iff.1 h
    have hrange : Int64.minValue.toInt ≤ n.toInt ∧ n.toInt ≤ Int64.maxValue.toInt :=
      ⟨n.minValue_le_toInt, n.toInt_le⟩
    simp only [readField, integerField, hrange, and_self, if_true, Int64.ofInt_toInt]
    rfl
  | _ =>
    obtain ⟨s, -, rfl⟩ := Option.map_eq_some_iff.1 h
    rfl

/-! ## Reading entries -/

/-- No field is given twice; other keys may be. -/
def FieldsOnce (keys : List String) : Prop := ∀ f : Field, keys.count f.key ≤ 1

instance (keys : List String) : Decidable (FieldsOnce keys) :=
  decidable_of_iff (∀ f ∈ Field.all, keys.count f.key ≤ 1)
    ⟨fun h f => h f (Field.mem_all f), fun h f _ => h f⟩

theorem fieldsOnce_of_distinct {entries : List (String × Json)} (h : Entries.Distinct entries) :
    FieldsOnce (entries.map Prod.fst) := fun f => h.count_le_one f.key

/-- **Entries.** A record is read from entries exactly if every field is what its look-up is read as; a field that
is not given stays. -/
theorem foldlM_take_eq_ok_iff {entries : List (String × Json)} (honce : FieldsOnce (entries.map Prod.fst))
    (w u : User) :
    entries.foldlM take w = .ok u ↔
      ∀ f : Field, (Entries.find? f.key entries).elim (some (w.get? f)) (readField f) = some (u.get? f) := by
  induction entries generalizing w with
  | nil =>
    simp only [List.foldlM_nil, Entries.find?, Option.elim_none, Option.some.injEq]
    constructor
    · intro h f
      cases h
      rfl
    · intro h
      rw [ext_get? h]
      rfl
  | cons e rest ih =>
    obtain ⟨key, v⟩ := e
    have hrest : FieldsOnce (rest.map Prod.fst) := fun f => Entries.count_le_one_of_cons (honce f)
    rw [List.foldlM_cons]
    cases hkey : Field.ofKey? key with
    | none =>
      have hne : ∀ f : Field, key ≠ f.key := by
        intro f heq
        rw [heq, Field.ofKey?_key] at hkey
        cases hkey
      simp only [take, hkey, Entries.find?, hne, if_false]
      exact ih hrest w
    | some g =>
      obtain rfl := Field.key_eq_of_ofKey? hkey
      have hlast : Entries.find? g.key rest = none :=
        Entries.find?_eq_none_iff.2 (Entries.not_mem_of_count_cons (honce g))
      simp only [take, hkey]
      constructor
      · intro h f
        cases hset : w.set g v with
        | error e => rw [hset] at h; cases h
        | ok w' =>
          rw [hset] at h
          obtain ⟨w'', hset', hget⟩ := set_of_readField (readField_of_set hset) w
          cases hset.symm.trans hset'
          have hf := (ih hrest w').1 h f
          by_cases hfg : f = g
          · subst hfg
            rw [hlast] at hf
            rw [Entries.find?, if_pos rfl, Option.elim_some, readField_of_set hset]
            exact hf
          · rw [hget f, if_neg hfg] at hf
            rw [Entries.find?, if_neg fun heq => hfg (Field.key_inj heq.symm)]
            exact hf
      · intro h
        have hg := h g
        rw [Entries.find?, if_pos rfl, Option.elim_some] at hg
        obtain ⟨w', hset, hget⟩ := set_of_readField hg w
        rw [hset]
        refine (ih hrest w').2 fun f => ?_
        by_cases hfg : f = g
        · subst hfg
          rw [hlast, hget, if_pos rfl]
          rfl
        · rw [hget f, if_neg hfg, ← h f, Entries.find?, if_neg fun heq => hfg (Field.key_inj heq.symm)]

theorem ofEntries_eq_ok_iff {entries : List (String × Json)} (honce : FieldsOnce (entries.map Prod.fst))
    {u : User} :
    ofEntries entries = .ok u ↔
      ∀ f : Field, (Entries.find? f.key entries).elim (some none) (readField f) = some (u.get? f) := by
  have hblank : ∀ f, blank.get? f = none := fun f => by cases f <;> rfl
  simp only [ofEntries, foldlM_take_eq_ok_iff honce, hblank]

/-- A record is determined by the look-ups of its fields. -/
theorem ofEntries_of_find? {u : User} {entries : List (String × Json)}
    (hdistinct : Entries.Distinct entries)
    (hfind : ∀ f : Field, Entries.find? f.key entries = u.get? f) : ofEntries entries = .ok u := by
  refine (ofEntries_eq_ok_iff (fieldsOnce_of_distinct hdistinct)).2 fun f => ?_
  rw [hfind]
  cases hf : u.get? f with
  | none => rfl
  | some v => exact readField_get? hf

/-- An object that holds the fields of a record is read as that record. -/
theorem ofJson_object {u : User} {members : List (String × Json)}
    (hdistinct : Entries.Distinct members)
    (hfind : ∀ f : Field, Entries.find? f.key members = u.get? f) :
    ofJson (Json.object members) = .ok u := by
  apply ofEntries_of_find?
  · exact (Entries.increasing_foldl_insert members List.Pairwise.nil).distinct
  · intro f
    rw [Entries.find?_foldl_insert _ hdistinct, Entries.find?, Option.or_none, hfind]

/-! ## The entries of a record -/

theorem mem_entries {u : User} {key : String} {v : Json} :
    (key, v) ∈ u.entries ↔ ∃ f : Field, f.key = key ∧ u.get? f = some v := by
  unfold entries
  rw [List.mem_filterMap]
  constructor
  · rintro ⟨f, -, hf⟩
    obtain ⟨x, hx, heq⟩ := Option.map_eq_some_iff.1 hf
    cases heq
    exact ⟨f, rfl, hx⟩
  · rintro ⟨f, rfl, hf⟩
    exact ⟨f, Field.mem_all f, by rw [hf]; rfl⟩

theorem distinct_entries (u : User) : Entries.Distinct u.entries := by
  have hnodup : (Field.all.map Field.key).Nodup := by decide
  refine List.Nodup.sublist ?_ hnodup
  unfold entries
  induction Field.all with
  | nil => exact List.Sublist.refl _
  | cons f rest ih =>
    rw [List.filterMap_cons]
    cases u.get? f with
    | none => exact List.Sublist.cons _ ih
    | some v => exact List.Sublist.cons_cons _ ih

theorem find?_entries (u : User) (f : Field) : Entries.find? f.key u.entries = u.get? f := by
  cases hf : u.get? f with
  | some v => exact (Entries.find?_eq_some_iff u.distinct_entries).2 (mem_entries.2 ⟨f, rfl, hf⟩)
  | none =>
    rw [Entries.find?_eq_none_iff]
    intro hmem
    obtain ⟨⟨key, v⟩, hkv, heq⟩ := List.mem_map.1 hmem
    obtain ⟨g, hg, hv⟩ := mem_entries.1 hkv
    rw [Field.key_inj (hg.trans heq), hf] at hv
    cases hv

/-- Keys that name no field are not written. -/
theorem find?_entries_of_not_field (u : User) {key : String} (h : Field.ofKey? key = none) :
    Entries.find? key u.entries = none := by
  rw [Entries.find?_eq_none_iff]
  intro hmem
  obtain ⟨⟨k, v⟩, hkv, rfl⟩ := List.mem_map.1 hmem
  obtain ⟨g, hg, -⟩ := mem_entries.1 hkv
  rw [← hg, Field.ofKey?_key] at h
  cases h

/-- The values of fields are texts and integers. -/
theorem canonical_get? {u : User} {f : Field} {v : Json} (h : u.get? f = some v) :
    Json.Canonical v ∧ v.depth = 0 := by
  cases f with
  | id =>
    obtain ⟨n, -, rfl⟩ := Option.map_eq_some_iff.1 h
    have hlow := n.le_toInt
    have hhigh := n.toInt_lt
    exact ⟨.int (by omega) (by omega), rfl⟩
  | _ =>
    obtain ⟨s, -, rfl⟩ := Option.map_eq_some_iff.1 h
    exact ⟨.str s, rfl⟩

theorem canonical_of_mem_entries {u : User} {m : String × Json} (h : m ∈ u.entries) :
    Json.Canonical m.2 ∧ m.2.depth = 0 := by
  obtain ⟨f, -, hf⟩ := mem_entries.1 h
  exact canonical_get? hf

/-! ## Reading the text -/

/-- The fields as the reader of texts knows them. -/
def textFields : List Json.Field := Field.all.map fun f => .plain f.key

theorem find?_textFields (key : String) :
    (textFields.find? fun g => g.key = key) = (Field.ofKey? key).map fun f => .plain f.key :=
  List.find?_map

/-- What the reader of an object does with a field: it takes each once. -/
def takeOnce (seen : List (String × Json)) (m : String × Json) : Option (List (String × Json)) :=
  if (Entries.find? m.1 seen).isSome then none else some (seen ++ [m])

theorem takeOnce_eq_some_iff {seen next : List (String × Json)} {m : String × Json}
    (hseen : Entries.Distinct seen) :
    takeOnce seen m = some next ↔ Entries.Distinct (seen ++ [m]) ∧ next = seen ++ [m] := by
  have hnew : Entries.Distinct (seen ++ [m]) ↔ Entries.find? m.1 seen = none := by
    rw [Entries.find?_eq_none_iff, Entries.distinct_append_comm]
    exact Entries.distinct_cons.trans (and_iff_left hseen)
  rw [takeOnce, hnew]
  cases Entries.find? m.1 seen with
  | some v => simp
  | none => simp [eq_comm]

/-- Entries are taken exactly if no key is given twice. -/
theorem foldlM_takeOnce_eq_some_iff {entries seen result : List (String × Json)} (hseen : Entries.Distinct seen) :
    entries.foldlM takeOnce seen = some result ↔
      Entries.Distinct (seen ++ entries) ∧ result = seen ++ entries := by
  induction entries generalizing seen with
  | nil =>
    rw [List.append_nil, and_iff_right hseen, eq_comm]
    exact Option.some_inj
  | cons m rest ih =>
    rw [List.foldlM_cons, Option.bind_eq_bind, Option.bind_eq_some_iff, List.append_cons]
    constructor
    · rintro ⟨next, hnext, hrest⟩
      obtain ⟨hdistinct, rfl⟩ := (takeOnce_eq_some_iff hseen).1 hnext
      exact (ih hdistinct).1 hrest
    · rintro ⟨hdistinct, rfl⟩
      have hnext : Entries.Distinct (seen ++ [m]) := hdistinct.sublist (List.sublist_append_left _ _)
      exact ⟨_, (takeOnce_eq_some_iff hseen).2 ⟨hnext, rfl⟩, (ih hnext).2 ⟨hdistinct, rfl⟩⟩

/-- The reader of texts reads every written field back. -/
theorem readsMembers_entries (u : User) :
    Json.ReadsMembers (Json.namedStep textFields) takeOnce u.entries := by
  intro m hm
  obtain ⟨hcanonical, hdepth⟩ := canonical_of_mem_entries hm
  obtain ⟨f, hkey, -⟩ := mem_entries.1 hm
  refine ⟨hcanonical, fun seen rest hrest => ?_⟩
  have hvalue := Json.value_writeChars hcanonical 0 (by omega) rest hrest
  simp only [Json.namedStep, takeOnce, ← hkey, find?_textFields, Field.ofKey?_key, Option.map_some,
    Json.Field.plain]
  split
  · rfl
  · rw [hvalue, hkey]
    rfl

/-- **Records read back.** Every record is read back from the text that the session keeps. -/
theorem ofText?_encode (u : User) : ofText? u.encode = some u := by
  obtain ⟨tail, htail⟩ : ∃ tail, Json.writeChars (.obj u.entries) ++ [] = '\x7b' :: tail := by
    cases u.entries <;> exact ⟨_, rfl⟩
  have hmembers := Json.members_write u.readsMembers_entries [] [] tail htail
  have htaken : u.entries.foldlM takeOnce [] = some u.entries :=
    (foldlM_takeOnce_eq_some_iff Entries.distinct_nil).2 ⟨u.distinct_entries, rfl⟩
  rw [htaken] at hmembers
  rw [List.append_nil] at htail
  have hwhole : Json.whole (Json.record textFields) u.encode = some u.entries := by
    rw [encode, Json.compact, htail]
    exact Json.whole_ofList (Json.skipGap_cons (by decide) tail) hmembers
  have hentries : ofEntries u.entries = .ok u := ofEntries_of_find? u.distinct_entries u.find?_entries
  rw [ofText?, ← textFields, hwhole, Option.bind_eq_bind, Option.bind_some, hentries]
  rfl

/-! ## The written record -/

/-- The member for a field that is present. -/
def memberFor {α : Type} (key : String) (value : α → Json) (field : Option α) : List (String × Json) :=
  (field.map fun x => (key, value x)).toList

/-- The members of a record as JSON: one for each field that is present, under the name that the backend has
for it. -/
def members (u : User) : List (String × Json) :=
  memberFor "id" (fun n : Int64 => .num (.int n.toInt)) u.id ++ memberFor "tenDangNhap" .str u.loginName ++
    memberFor "hoTen" .str u.fullName ++ memberFor "vaiTro" .str u.duty ++ memberFor "role" .str u.role ++
    memberFor "dienThoai" .str u.phone

theorem entries_eq_members (u : User) : u.entries = u.members := by
  have hfield : ∀ (f : Field) (rest : List Field) (member : Field → Option (String × Json)),
      (f :: rest).filterMap member = (member f).toList ++ rest.filterMap member := by
    intro f rest member
    rw [List.filterMap_cons]
    cases member f <;> rfl
  simp [entries, Field.all, hfield, get?, Field.key, members, memberFor, Option.map_map, Function.comp_def]

/-- The text is the JSON text of the record: the object of its members without blanks, in which the reader of
values finds these members, and the reader of records the record. -/
structure EncodedAs (u : User) (text : String) : Prop where
  written : text = Json.compact (.obj u.members)
  parsed : Json.parse? text = some (Json.object u.members)
  decoded : ofText? text = some u

/-- **Records as JSON.** The text that the session keeps is the JSON text of the record. -/
theorem encodedAs_encode (u : User) : u.EncodedAs u.encode := by
  have hwritten : u.encode = Json.compact (.obj u.members) := by rw [encode, entries_eq_members]
  refine ⟨hwritten, ?_, u.ofText?_encode⟩
  rw [hwritten]
  refine Json.parse?_compact_obj fun m hm => ?_
  rw [← entries_eq_members] at hm
  obtain ⟨hcanonical, hdepth⟩ := canonical_of_mem_entries hm
  exact ⟨hcanonical, hdepth ▸ Nat.zero_lt_succ 126⟩

theorem EncodedAs.eq_encode {u : User} {text : String} (h : u.EncodedAs text) : text = u.encode :=
  h.written.trans u.encodedAs_encode.written.symm

/-! ## The role in a record -/

/-- The role text of a record: of the two fields for it, each trimmed, the first that has something left. -/
def roleText? (u : User) : Option String :=
  ([u.role, u.duty].filterMap fun field => field.map trim).find? fun text => text ≠ ""

theorem rawRole?_eq_roleText? (u : User) : u.rawRole? = u.roleText? := by
  have hfirst : ∀ (field : Option String) (rest : List (Option String)),
      ((field :: rest).filterMap fun field => field.map trim).find? (fun text => text ≠ "") =
        (field.bind nonBlank).orElse fun _ =>
          (rest.filterMap fun field => field.map trim).find? fun text => text ≠ "" := by
    intro field rest
    cases field with
    | none => rfl
    | some text => by_cases h : trim text = "" <;> simp [nonBlank, h]
  rw [roleText?, hfirst, hfirst, rawRole?]
  cases u.duty.bind nonBlank <;> rfl

end User

end ResidencePortal
