import ResidencePortal.Proofs.Entries
import ResidencePortal.Proofs.UserRecord
import ResidencePortal.Session.CookieStore

/-!
# The image of a login

What a login leaves in a session, seen key by key: the record as JSON, the mark of a login, the role if the
record has one, the token if there is one, and nothing else. `ImageOf` says it outright; the entries that are
written and the cookie that results from them agree with it.

**Results.**
* `loginEntries_eq`: the entries of a login, in the order in which they are written.
* `find?_loginEntries`: under each key, what they leave there.
* `storeLogin_cookie`: on a cookie, storing a login never fails, whatever the cookie held before.
* `imageOf_iff`: the cookie then holds the image of the login, and no other values are its image.
-/

namespace ResidencePortal.Session

/-- The text that a login leaves under a key. -/
def loginText? (user : User) (token : Option String) (key : String) : Option String :=
  if key = Key.currentUser then some user.encode
  else if key = Key.isLoggedIn then some "true"
  else if key = Key.role then user.rawRole?
  else if key = Key.accessToken then token
  else none

/-- The values are the image of a login: they hold the JSON text of the record, the mark, the role text if the
record has one, the token if there is one, and nothing under any other key. -/
structure ImageOf (user : User) (token : Option String) (values : KeyMap Json) : Prop where
  record : ∃ text, user.EncodedAs text ∧ values.find? "currentUser" = some (.str text)
  mark : values.find? "isLoggedIn" = some (.str "true")
  role : values.find? "role" = user.roleText?.map .str
  token : values.find? "accessToken" = token.map .str
  others : ∀ key ∉ ["currentUser", "isLoggedIn", "role", "accessToken"], values.find? key = none

/-- The cookie session of a login. -/
def loginSession (user : User) (token : Option String) : CookieStore :=
  .ofList ((loginEntries user token).map fun e => (e.1, .str e.2))

/-! ## The entries of a login -/

theorem loginEntries_eq (user : User) (token : Option String) :
    loginEntries user token = [("currentUser", user.encode), ("isLoggedIn", "true")] ++
      (user.roleText?.map fun role => ("role", role)).toList ++
      (token.map fun token => ("accessToken", token)).toList := by
  rw [← User.rawRole?_eq_roleText?]
  rfl

theorem sublist_loginEntries (user : User) (token : Option String) :
    ((loginEntries user token).map Prod.fst).Sublist
      [Key.currentUser, Key.isLoggedIn, Key.role, Key.accessToken] := by
  unfold loginEntries entry?
  cases user.rawRole? <;> cases token <;> simp

theorem distinct_loginEntries (user : User) (token : Option String) :
    Entries.Distinct (loginEntries user token) :=
  List.Nodup.sublist (sublist_loginEntries user token) (by decide)

theorem mem_keys_of_mem_loginEntries {user : User} {token : Option String} {key : String}
    (h : key ∈ (loginEntries user token).map Prod.fst) : key ∈ keys := by
  have hkeys : ∀ k ∈ [Key.currentUser, Key.isLoggedIn, Key.role, Key.accessToken], k ∈ keys := by
    decide
  exact hkeys key ((sublist_loginEntries user token).mem h)

/-- The entries of a login hold exactly its image. -/
theorem find?_loginEntries (user : User) (token : Option String) (key : String) :
    Entries.find? key (loginEntries user token) = loginText? user token key := by
  unfold loginEntries entry?
  simp only [Entries.find?_append]
  have hentry : ∀ (k : String) (value : Option String),
      Entries.find? key (value.map fun v => (k, v)).toList = if k = key then value else none := by
    intro k value
    cases value <;> simp [Entries.find?]
  rw [hentry, hentry]
  unfold loginText?
  by_cases huser : key = Key.currentUser
  · simp [Entries.find?, huser]
  by_cases hmark : key = Key.isLoggedIn
  · subst hmark; simp [Entries.find?, Key.isLoggedIn, Key.currentUser]
  by_cases hrole : key = Key.role
  · subst hrole
    simp [Entries.find?, Key.role, Key.currentUser, Key.isLoggedIn, Key.accessToken]
  · simp [Entries.find?, huser, hmark, hrole, Ne.symm huser, Ne.symm hmark, Ne.symm hrole,
      eq_comm]

/-! ## On a cookie -/

/-- Writing to a cookie never fails. -/
theorem writeEach_cookie (entries : List (String × String)) (s : CookieStore) :
    writeEach Store.write entries s =
      ⟨⟨(entries.map fun e => (e.1, Json.str e.2)).foldl (fun m e => m.insert e.1 e.2) s.values⟩,
        none⟩ := by
  induction entries generalizing s with
  | nil => rfl
  | cons e rest ih => exact ih (s.write e.1 e.2)

theorem storeLogin_cookie (s : CookieStore) (user : User) (token : Option String) :
    storeLogin s user token = ⟨loginSession user token, none⟩ :=
  writeEach_cookie (loginEntries user token) .empty

theorem find?_loginSession (user : User) (token : Option String) (key : String) :
    (loginSession user token).values.find? key = (loginText? user token key).map .str := by
  have hdistinct : Entries.Distinct ((loginEntries user token).map fun e => (e.1, Json.str e.2)) := by
    have hkeys := distinct_loginEntries user token
    unfold Entries.Distinct at hkeys ⊢
    rwa [List.map_map]
  rw [loginSession, CookieStore.ofList, KeyMap.find?_ofList key hdistinct, Entries.find?_map,
    find?_loginEntries]

theorem read_loginSession (user : User) (token : Option String) (key : String) :
    (loginSession user token).read key = .ok (loginText? user token key) := by
  rw [CookieStore.read, find?_loginSession]
  cases loginText? user token key <;> rfl

theorem imageOf_loginSession (user : User) (token : Option String) :
    ImageOf user token (loginSession user token).values where
  record := ⟨user.encode, user.encodedAs_encode, find?_loginSession user token "currentUser"⟩
  mark := find?_loginSession user token "isLoggedIn"
  role := by
    rw [← User.rawRole?_eq_roleText?]
    exact find?_loginSession user token "role"
  token := find?_loginSession user token "accessToken"
  others key hkey := by
    rw [find?_loginSession]
    simp_all [loginText?, Key.currentUser, Key.isLoggedIn, Key.role, Key.accessToken]

/-- **The image.** The values that a login leaves in a cookie are its image, and no other values are. -/
theorem imageOf_iff {user : User} {token : Option String} {values : KeyMap Json} :
    ImageOf user token values ↔ values = (loginSession user token).values := by
  constructor
  · intro h
    have himage := imageOf_loginSession user token
    refine KeyMap.ext_find? fun key => ?_
    by_cases hkey : key ∈ ["currentUser", "isLoggedIn", "role", "accessToken"]
    · simp only [List.mem_cons, List.not_mem_nil, or_false] at hkey
      rcases hkey with rfl | rfl | rfl | rfl
      · obtain ⟨text, htext, hfind⟩ := h.record
        obtain ⟨text', htext', hfind'⟩ := himage.record
        rw [hfind, hfind', htext.eq_encode, htext'.eq_encode]
      · rw [h.mark, himage.mark]
      · rw [h.role, himage.role]
      · rw [h.token, himage.token]
    · rw [h.others key hkey, himage.others key hkey]
  · rintro rfl
    exact imageOf_loginSession user token

/-- The image of a login holds what the login writes. -/
theorem ImageOf.find?_eq {user : User} {token : Option String} {values : KeyMap Json}
    (h : ImageOf user token values) (key : String) :
    values.find? key = (Entries.find? key (loginEntries user token)).map .str := by
  rw [imageOf_iff.1 h, find?_loginSession, find?_loginEntries]

end ResidencePortal.Session
