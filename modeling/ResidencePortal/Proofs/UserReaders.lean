import ResidencePortal.Proofs.Json.Skipping
import ResidencePortal.Proofs.UserRecord

/-!
# The two readers of user records

A record is read from a text, part by part, or from the value of the text. The first passes what is no field
without looking at it, takes a field when it comes to it and refuses a container there; the second is given the
members in increasing order, each key once, and the containers as well. Still they read the same records, as long as
the text gives no field twice. A text that does is refused by the first reader alone.

**Results.**
* `Json.memberKeys`: the keys that the outermost object of a text gives.
* `User.foldlM_takeField_eq_some_iff`, `User.foldlM_placeItem_eq_some_iff`: the entries that the reader of texts
  collects.
* `User.ofText?_object`, `User.ofText?_list`: the two forms of a record.
* `User.readers_agree`: the readers agree on every document.
-/

namespace ResidencePortal

namespace Json

/-! ## Whole texts -/

/-- The key is noted, and the value behind it read. -/
def keyStep (key : String) (seen : List String) : Reader (List String) := fun cs =>
  (value (maxDepth - 1) cs).map fun r => (seen ++ [key], r.2)

/-- The keys of the outermost object of a text, in the order of the text and each as often as it is given. A text that
is no object has none. -/
def memberKeys (text : String) : List String :=
  match skipGap text.toList with
  | '\x7b' :: cs => ((members keyStep [] cs).map Prod.fst).getD []
  | _ => []

theorem memberKeys_eq_nil {text : String} (hobject : ∀ tail, skipGap text.toList ≠ '\x7b' :: tail) :
    memberKeys text = [] := by
  unfold memberKeys
  split
  next hchars => exact absurd hchars (hobject _)
  next => rfl

theorem followsMembers_keyStep (n : Nat) :
    FollowsMembers (maxDepth - 1) n keyStep fun seen m => pure (seen ++ [m.1]) := by
  intro key seen cs v rest _ hvalue
  rw [keyStep, hvalue]
  rfl

theorem parse?_eq_some {text : String} {v : Json} (h : parse? text = some v) :
    ∃ rest, value maxDepth (skipGap text.toList) = some (v, rest) ∧ skipGap rest = [] := by
  obtain ⟨⟨w, rest⟩, hvalue, h⟩ := Option.bind_eq_some_iff.1 h
  dsimp only at h
  split at h
  next hrest =>
    cases h
    exact ⟨rest, hvalue, List.isEmpty_iff.1 hrest⟩
  next => cases h

/-- A reader that stops at the end of the text, if it does not refuse it. -/
theorem whole_of_stops {α : Type} {read : Reader α} {text : String} {rest : List Char} {a? : Option α}
    (hread : read (skipGap text.toList) = a?.map fun a => (a, rest)) (hrest : skipGap rest = []) :
    whole read text = a? := by
  rw [whole, hread]
  cases a? with
  | none => rfl
  | some a => simp [hrest]

end Json

namespace User

/-- Containers are no values of fields. -/
theorem depth_of_readField {f : Field} {v : Json} {x : Option Json} (h : readField f v = some x) :
    v.depth = 0 := by
  cases v with
  | arr items => cases f <;> cases h
  | obj ms => cases f <;> cases h
  | _ => rfl

theorem depth_of_ofEntries {entries : List (String × Json)} (honce : FieldsOnce (entries.map Prod.fst)) {u : User}
    (h : ofEntries entries = .ok u) {f : Field} {v : Json} (hfind : Entries.find? f.key entries = some v) :
    v.depth = 0 := by
  have hread := (ofEntries_eq_ok_iff honce).1 h f
  rw [hfind] at hread
  exact depth_of_readField hread

theorem ofEntries_congr {xs ys : List (String × Json)} (hx : FieldsOnce (xs.map Prod.fst))
    (hy : FieldsOnce (ys.map Prod.fst)) (h : ∀ f : Field, Entries.find? f.key xs = Entries.find? f.key ys)
    (u : User) : ofEntries xs = .ok u ↔ ofEntries ys = .ok u := by
  rw [ofEntries_eq_ok_iff hx, ofEntries_eq_ok_iff hy]
  exact forall_congr' fun f => by rw [h f]

theorem toOption_eq_some_iff {x : Except Json.Mismatch User} {u : User} : x.toOption = some u ↔ x = .ok u := by
  cases x with
  | error e => simp [Except.toOption]
  | ok w => simp [Except.toOption]

/-! ## Objects -/

/-- The key names a field. -/
def namesField (key : String) : Bool := (Field.ofKey? key).isSome

theorem namesField_key (f : Field) : namesField f.key = true := by
  rw [namesField, Field.ofKey?_key]
  rfl

/-- The members that name fields. -/
def fieldsOf (ms : List (String × Json)) : List (String × Json) := ms.filter fun m => namesField m.1

/-- What the reader of texts does with a member: it takes a field once, and passes other members. -/
def takeField (seen : List (String × Json)) (m : String × Json) : Option (List (String × Json)) :=
  if namesField m.1 then if m.2.depth = 0 then takeOnce seen m else none else some seen

theorem followsMembers_namedStep (d n : Nat) :
    Json.FollowsMembers d n (Json.namedStep textFields) takeField := by
  intro key seen cs v rest hcs hvalue
  unfold Json.namedStep takeField namesField
  rw [find?_textFields]
  dsimp only
  cases hkey : Field.ofKey? key with
  | none =>
    simp only [Option.map_none, Option.isSome_none, Json.skip_of_value hvalue (Nat.le_refl _)]
    rfl
  | some f =>
    simp only [Option.map_some, Option.isSome_some, if_true, Json.Field.plain, Json.value_zero hvalue, takeOnce]
    split <;> split <;> rfl

/-- No field is given twice exactly if the members that name fields have different keys. -/
theorem fieldsOnce_iff_distinct (ms : List (String × Json)) :
    FieldsOnce (ms.map Prod.fst) ↔ Entries.Distinct (fieldsOf ms) := by
  have hkeys : (fieldsOf ms).map Prod.fst = (ms.map Prod.fst).filter namesField := by
    rw [List.filter_map]
    rfl
  rw [Entries.Distinct, hkeys, List.nodup_iff_count]
  constructor
  · intro h key
    cases hkey : Field.ofKey? key with
    | none =>
      rw [List.count_eq_zero.2 fun hmem => by simp [namesField, hkey] at hmem]
      exact Nat.zero_le 1
    | some f =>
      rw [← Field.key_eq_of_ofKey? hkey, List.count_filter (namesField_key f)]
      exact h f
  · intro h f
    rw [← List.count_filter (namesField_key f)]
    exact h f.key

/-- The reader of texts takes the fields and refuses containers in them. -/
theorem foldlM_takeField_eq_some_iff_takeOnce {ms seen entries : List (String × Json)} :
    ms.foldlM takeField seen = some entries ↔
      (∀ m ∈ ms, namesField m.1 → m.2.depth = 0) ∧ (fieldsOf ms).foldlM takeOnce seen = some entries := by
  induction ms generalizing seen with
  | nil => simp [fieldsOf]
  | cons m rest ih =>
    rw [List.foldlM_cons, List.forall_mem_cons, takeField, fieldsOf, List.filter_cons, ← fieldsOf]
    by_cases hfield : namesField m.1 = true
    · rw [if_pos hfield, if_pos hfield, List.foldlM_cons]
      by_cases hdepth : m.2.depth = 0
      · rw [if_pos hdepth, and_iff_right fun _ => hdepth]
        cases takeOnce seen m with
        | none => simp
        | some next => exact ih
      · rw [if_neg hdepth]
        exact ⟨(fun h => nomatch h), fun h => absurd (h.1.1 hfield) hdepth⟩
    · rw [if_neg hfield, if_neg hfield, and_iff_right fun h => absurd h hfield]
      exact ih

/-- **Members.** The reader of texts collects the fields, in the order of the text; it refuses a field that is given
twice or that holds a container. -/
theorem foldlM_takeField_eq_some_iff {ms entries : List (String × Json)} :
    ms.foldlM takeField [] = some entries ↔
      FieldsOnce (ms.map Prod.fst) ∧ (∀ m ∈ ms, namesField m.1 → m.2.depth = 0) ∧ entries = fieldsOf ms := by
  rw [foldlM_takeField_eq_some_iff_takeOnce, foldlM_takeOnce_eq_some_iff Entries.distinct_nil, List.nil_append,
    fieldsOnce_iff_distinct]
  exact and_left_comm

/-- The reader of values is given the members in order, with the last value of a key. For fields that are given once
this makes no difference. -/
theorem ofJson_eq_ok_iff_of_once {ms : List (String × Json)} (honce : FieldsOnce (ms.map Prod.fst)) (u : User) :
    ofJson (Json.object ms) = .ok u ↔
      (∀ m ∈ ms, namesField m.1 → m.2.depth = 0) ∧ ofEntries (fieldsOf ms) = .ok u := by
  have hsorted : FieldsOnce ((ms.foldl (fun acc m => Entries.insert m.1 m.2 acc) []).map Prod.fst) :=
    fieldsOnce_of_distinct (Entries.increasing_foldl_insert ms List.Pairwise.nil).distinct
  have hfields : FieldsOnce ((fieldsOf ms).map Prod.fst) :=
    fieldsOnce_of_distinct ((fieldsOnce_iff_distinct ms).1 honce)
  have hfind : ∀ f : Field, Entries.find? f.key (ms.foldl (fun acc m => Entries.insert m.1 m.2 acc) []) =
      Entries.find? f.key (fieldsOf ms) := by
    intro f
    rw [Entries.find?_foldl_insert_of_count (honce f), fieldsOf, Entries.find?_filter (namesField_key f)]
    exact Option.or_none
  rw [Json.object, ofJson, ofEntries_congr hsorted hfields hfind]
  refine (and_iff_right_of_imp fun hok => ?_).symm
  rintro ⟨key, v⟩ hm hfield
  obtain ⟨f, hf⟩ := Option.isSome_iff_exists.1 hfield
  obtain rfl := Field.key_eq_of_ofKey? hf
  have hmem : (f.key, v) ∈ fieldsOf ms := List.mem_filter.2 ⟨hm, hfield⟩
  exact depth_of_ofEntries hfields hok ((Entries.find?_eq_some_iff_of_count (hfields f)).2 hmem)

/-- **Objects.** What the reader of texts makes of an object. -/
theorem ofText?_object {text : String} {tail rest : List Char} {ms : List (String × Json)}
    (hchars : Json.skipGap text.toList = '\x7b' :: tail)
    (hms : Json.members (Json.memberStep (Json.maxDepth - 1)) [] tail = some (ms, rest))
    (hrest : Json.skipGap rest = []) (u : User) :
    ofText? text = some u ↔ FieldsOnce (Json.memberKeys text) ∧ ofJson (.obj ms) = .ok u := by
  obtain ⟨added, rfl, hfold⟩ := Json.members_fold hms
  have hkeys : Json.memberKeys text = added.map Prod.fst := by
    rw [Json.memberKeys, hchars]
    show ((Json.members Json.keyStep [] tail).map Prod.fst).getD [] = added.map Prod.fst
    rw [hfold (Json.followsMembers_keyStep _), List.foldlM_pure, List.foldl_append_eq_append, ← List.flatMap_def,
      ← List.map_eq_flatMap]
    rfl
  have hentries : Json.whole (Json.record textFields) text = added.foldlM takeField [] := by
    refine Json.whole_of_stops ?_ hrest
    rw [hchars]
    exact hfold (followsMembers_namedStep _ _) []
  rw [ofText?, ← textFields, hentries, hkeys, Option.bind_eq_bind, Option.bind_eq_some_iff]
  simp only [foldlM_takeField_eq_some_iff, toOption_eq_some_iff]
  constructor
  · rintro ⟨entries, ⟨honce, hdepth, rfl⟩, hok⟩
    exact ⟨honce, (ofJson_eq_ok_iff_of_once honce u).2 ⟨hdepth, hok⟩⟩
  · rintro ⟨honce, hok⟩
    obtain ⟨hdepth, hok⟩ := (ofJson_eq_ok_iff_of_once honce u).1 hok
    exact ⟨fieldsOf added, ⟨honce, hdepth, rfl⟩, hok⟩

/-! ## Lists -/

/-- What the reader of texts does with an item: it is the value of the next field. -/
def placeItem (seen : List (String × Json)) (v : Json) : Option (List (String × Json)) :=
  match Field.all[seen.length]? with
  | some f => if v.depth = 0 then some (seen ++ [(f.key, v)]) else none
  | none => none

theorem followsItems_placedStep (d n : Nat) : Json.FollowsItems d n (Json.placedStep textFields) placeItem := by
  intro seen cs v rest _ hvalue
  unfold Json.placedStep placeItem textFields
  rw [List.getElem?_map]
  cases Field.all[seen.length]? with
  | none => rfl
  | some f =>
    simp only [Option.map_some, Json.Field.plain, Json.value_zero hvalue]
    split <;> rfl

/-- **Items.** The reader of texts gives the items to the fields in order; it refuses a list that is longer than the
fields, and containers. -/
theorem foldlM_placeItem_eq_some_iff {items : List Json} {seen entries : List (String × Json)}
    (hseen : seen.length ≤ Field.all.length) :
    items.foldlM placeItem seen = some entries ↔
      seen.length + items.length ≤ Field.all.length ∧ (∀ v ∈ items, v.depth = 0) ∧
        entries = seen ++ ((Field.all.drop seen.length).map Field.key).zip items := by
  induction items generalizing seen with
  | nil =>
    rw [List.foldlM_nil, List.zip_nil_right, List.append_nil, List.length_nil, Nat.add_zero, and_iff_right hseen,
      and_iff_right (List.forall_mem_nil _), eq_comm]
    exact Option.some_inj
  | cons v rest ih =>
    rw [List.foldlM_cons, List.length_cons, List.forall_mem_cons]
    cases hplace : Field.all[seen.length]? with
    | none =>
      have hfull := List.getElem?_eq_none_iff.1 hplace
      simp only [placeItem, hplace]
      exact ⟨(fun h => nomatch h), fun h => absurd h.1 (by omega)⟩
    | some f =>
      obtain ⟨hlt, hf⟩ := List.getElem?_eq_some_iff.1 hplace
      rw [List.drop_eq_getElem_cons hlt, hf, List.map_cons, List.zip_cons_cons, List.append_cons]
      by_cases hdepth : v.depth = 0
      · have hnext : (seen ++ [(f.key, v)]).length = seen.length + 1 := List.length_append
        simp only [placeItem, hplace, hdepth, if_true, true_and]
        rw [Nat.add_comm rest.length, ← Nat.add_assoc, ← hnext]
        exact ih (by omega)
      · simp only [placeItem, hplace, hdepth, if_false]
        exact ⟨(fun h => nomatch h), fun h => h.2.1.1.elim⟩

theorem fieldsOnce_zip (items : List Json) : FieldsOnce (((Field.all.map Field.key).zip items).map Prod.fst) := by
  have hnodup : (Field.all.map Field.key).Nodup := by decide
  intro f
  rw [List.zip_eq_zip_take_min, List.map_fst_zip (by simp)]
  exact Nat.le_trans ((List.take_sublist _ _).count_le _) (List.nodup_iff_count.1 hnodup f.key)

/-- The reader of values gives the items to the fields in order as well. -/
theorem ofJson_list_eq_ok_iff {items : List Json} {u : User} :
    ofJson (.arr items) = .ok u ↔
      items.length ≤ Field.all.length ∧ (∀ v ∈ items, v.depth = 0) ∧
        ofEntries ((Field.all.map Field.key).zip items) = .ok u := by
  have hlist : ofJson (.arr items) = .ok u ↔
      items.length ≤ Field.all.length ∧ ofEntries ((Field.all.map Field.key).zip items) = .ok u := by
    rw [ofJson]
    cases ofEntries ((Field.all.map Field.key).zip items) with
    | error e => exact ⟨(fun h => nomatch h), fun h => nomatch h.2⟩
    | ok w =>
      show (if Field.all.length < items.length then _ else _) = _ ↔ _
      split
      next hlong => exact ⟨(fun h => nomatch h), fun h => absurd h.1 (by omega)⟩
      next hshort => exact (and_iff_right (by omega)).symm
  rw [hlist]
  refine and_congr_right fun hlength => (and_iff_right_of_imp fun hok v hv => ?_).symm
  -- the list is not too long, so every item stands under the key of a field
  have hkeys : items.length ≤ (Field.all.map Field.key).length := by rwa [List.length_map]
  rw [← List.map_snd_zip hkeys] at hv
  obtain ⟨⟨key, _⟩, hmem, rfl⟩ := List.mem_map.1 hv
  obtain ⟨f, -, rfl⟩ := List.mem_map.1 (List.of_mem_zip hmem).1
  have honce := fieldsOnce_zip items
  exact depth_of_ofEntries honce hok ((Entries.find?_eq_some_iff_of_count (honce f)).2 hmem)

/-- **Lists.** What the reader of texts makes of a list. -/
theorem ofText?_list {text : String} {tail rest : List Char} {items : List Json}
    (hchars : Json.skipGap text.toList = '[' :: tail)
    (hitems : Json.elements (Json.itemStep (Json.maxDepth - 1)) [] tail = some (items, rest))
    (hrest : Json.skipGap rest = []) (u : User) :
    ofText? text = some u ↔ ofJson (.arr items.reverse) = .ok u := by
  have hentries : Json.whole (Json.record textFields) text = items.reverse.foldlM placeItem [] := by
    refine Json.whole_of_stops ?_ hrest
    rw [hchars]
    exact Json.elements_fold hitems (followsItems_placedStep _ _) []
  have hstart : ([] : List (String × Json)).length ≤ Field.all.length := Nat.zero_le _
  rw [ofText?, ← textFields, hentries, Option.bind_eq_bind, Option.bind_eq_some_iff, ofJson_list_eq_ok_iff]
  simp only [foldlM_placeItem_eq_some_iff hstart, toOption_eq_some_iff, List.length_nil, Nat.zero_add, List.nil_append,
    List.drop_zero]
  constructor
  · rintro ⟨entries, ⟨hlength, hdepth, rfl⟩, hok⟩
    exact ⟨hlength, hdepth, hok⟩
  · rintro ⟨hlength, hdepth, hok⟩
    exact ⟨_, ⟨hlength, hdepth, rfl⟩, hok⟩

/-! ## Documents -/

/-- What is no container is no record, in either reader. -/
theorem ofText?_scalar {text : String} (hlist : ∀ tail, Json.skipGap text.toList ≠ '[' :: tail)
    (hobject : ∀ tail, Json.skipGap text.toList ≠ '\x7b' :: tail) : ofText? text = none := by
  have hrecord : Json.record textFields (Json.skipGap text.toList) = none := by
    unfold Json.record
    split
    next hchars => exact absurd hchars (hobject _)
    next hchars => exact absurd hchars (hlist _)
    next => rfl
  rw [ofText?, ← textFields, Json.whole, hrecord]
  rfl

theorem ofJson_ne_ok_of_depth {v : Json} (h : v.depth = 0) (u : User) : ofJson v ≠ .ok u := by
  cases v with
  | arr items => cases h
  | obj ms => cases h
  | _ => exact fun hok => nomatch hok

/-- **The readers agree.** Where a text gives no field twice, a record is read from it exactly if it is read from its
value; a text that gives a field twice is refused. -/
theorem readers_agree {text : String} {v : Json} (h : Json.parse? text = some v) :
    (FieldsOnce (Json.memberKeys text) → ∀ u, ofText? text = some u ↔ ofJson v = .ok u) ∧
      (¬ FieldsOnce (Json.memberKeys text) → ofText? text = none) := by
  suffices hboth : ∀ u, ofText? text = some u ↔ FieldsOnce (Json.memberKeys text) ∧ ofJson v = .ok u by
    refine ⟨fun honce u => (hboth u).trans (and_iff_right honce), fun htwice => ?_⟩
    exact Option.eq_none_iff_forall_ne_some.2 fun u hu => htwice ((hboth u).1 hu).1
  intro u
  obtain ⟨rest, hvalue, hrest⟩ := Json.parse?_eq_some h
  obtain ⟨_, tail, items, hd, hchars, hitems, rfl⟩ | ⟨_, tail, ms, hd, hchars, hms, rfl⟩ |
    ⟨hlist, hobject, hscalar⟩ := Json.value_cases hvalue
  · cases hd
    have hkeys : Json.memberKeys text = [] :=
      Json.memberKeys_eq_nil fun _ hobject => by rw [hchars] at hobject; cases hobject
    rw [ofText?_list hchars hitems hrest, hkeys]
    exact (and_iff_right fun f => Nat.zero_le 1).symm
  · cases hd
    exact ofText?_object hchars hms hrest u
  · rw [ofText?_scalar hlist hobject]
    have hrefused := ofJson_ne_ok_of_depth (Json.depth_of_scalar hscalar) u
    exact ⟨(fun hsome => nomatch hsome), fun hboth => absurd hboth.2 hrefused⟩

/-- A record among other members, one of them given twice, with the least number and an escaped key. -/
def strewnText : String :=
  "\x7b\"x\":[\x7b\"id\":1\x7d,-0],\"vai\\u0054ro\":\"k\\u1ebf to\\u00e1n\", \"id\":-9223372036854775808,\"x\":null\x7d"

/-- Its value. -/
def strewnValue : Json :=
  .obj [("id", .num (.int (-9223372036854775808))), ("vaiTro", .str "kế toán"), ("x", .null)]

/-- A field given twice. -/
def repeatedText : String := "\x7b\"id\": 1, \"\\u0069d\": 2\x7d"

theorem strewn_and_repeated_fields :
    (Json.parse? strewnText = some strewnValue ∧ FieldsOnce (Json.memberKeys strewnText) ∧
      (∀ u, ofText? strewnText = some u ↔ ofJson strewnValue = .ok u) ∧
      ofText? strewnText = some { blank with id := some Int64.minValue, duty := some "kế toán" }) ∧
    Json.parse? repeatedText = some (.obj [("id", .num (.int 2))]) ∧
      ¬ FieldsOnce (Json.memberKeys repeatedText) ∧ ofText? repeatedText = none := by
  have hstrewn : Json.parse? strewnText = some strewnValue := by rfl
  have honce : FieldsOnce (Json.memberKeys strewnText) := by decide +kernel
  have hagree := (readers_agree hstrewn).1 honce
  have hrepeated : Json.parse? repeatedText = some (.obj [("id", .num (.int 2))]) := by rfl
  have htwice : ¬ FieldsOnce (Json.memberKeys repeatedText) := by decide +kernel
  exact ⟨⟨hstrewn, honce, hagree, (hagree _).2 rfl⟩, hrepeated, htwice, (readers_agree hrepeated).2 htwice⟩

end User

end ResidencePortal
