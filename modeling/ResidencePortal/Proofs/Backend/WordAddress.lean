import Mathlib.Data.List.DropRight
import ResidencePortal.Proofs.Backend.RecordAddress

/-!
# The addresses of words

A search and the question for a login name end in a word that the visitor typed. The word is percent-coded, so
the address is that of the backend, a fixed path and one segment from which the word can be read. The address
of the backend counts without the slashes at its end.

**Results.**
* `isStem_dropTrailing`, `IsStem.eq_dropTrailing`, `sameStem_iff`: what is left of an address without the slashes at its
  end.
* `request_ask`: the request of a call for a word.
* `words_sent_coded`: what the request is made of, and when two of them go to one address.
-/

namespace ResidencePortal.Backend

open Text

/-! ## Slashes at the end -/

/-- So many slashes. -/
def slashes (n : Nat) : String := String.ofList (List.replicate n '/')

/-- The address is the stem with slashes behind it, and the stem does not end in one. -/
def IsStem (stem url : String) : Prop :=
  (∃ n, url = stem ++ slashes n) ∧ stem.toList.getLast? ≠ some '/'

/-- The addresses differ in the slashes at their ends only. -/
def SameStem (url other : String) : Prop :=
  ∃ stem m n, url = stem ++ slashes m ∧ other = stem ++ slashes n

theorem toList_dropTrailing (url : String) :
    (dropTrailing '/' url).toList = url.toList.rdropWhile (· == '/') := by
  rw [dropTrailing, String.toList_ofList, List.rdropWhile]

theorem dropTrailing_append_slashes (url : String) (n : Nat) :
    dropTrailing '/' (url ++ slashes n) = dropTrailing '/' url := by
  have hslash : ∀ c ∈ List.replicate n '/', (c == '/') = true := by
    intro c hc
    rw [List.eq_of_mem_replicate hc]
    rfl
  rw [dropTrailing, slashes, String.toList_append, String.toList_ofList, List.reverse_append,
    List.reverse_replicate, List.dropWhile_append_of_pos hslash, dropTrailing]

/-- **The stem.** Dropping the slashes at the end leaves a stem. -/
theorem isStem_dropTrailing (url : String) : IsStem (dropTrailing '/' url) url := by
  constructor
  · have hslash : ∀ c ∈ url.toList.rtakeWhile (· == '/'), c = '/' := by
      intro c hc
      simpa using List.mem_rtakeWhile_imp hc
    refine ⟨(url.toList.rtakeWhile (· == '/')).length, String.toList_inj.1 ?_⟩
    rw [String.toList_append, toList_dropTrailing, slashes, String.toList_ofList,
      ← List.eq_replicate_of_mem hslash, List.rdropWhile_append_rtakeWhile]
  · intro hlast
    rw [toList_dropTrailing] at hlast
    have hne : url.toList.rdropWhile (· == '/') ≠ [] := by
      intro hnil
      rw [hnil] at hlast
      cases hlast
    have hkept := List.rdropWhile_last_not (· == '/') url.toList hne
    rw [List.getLast?_eq_some_getLast hne, Option.some_inj] at hlast
    rw [hlast] at hkept
    exact hkept rfl

/-- An address has one stem. -/
theorem IsStem.eq_dropTrailing {stem url : String} (h : IsStem stem url) : stem = dropTrailing '/' url := by
  obtain ⟨⟨n, rfl⟩, hlast⟩ := h
  have hkept : ∀ hne : stem.toList ≠ [], ¬ (stem.toList.getLast hne == '/') = true := by
    intro hne heq
    rw [List.getLast?_eq_some_getLast hne] at hlast
    exact hlast (congrArg some (eq_of_beq heq))
  rw [dropTrailing_append_slashes, ← String.toList_inj, toList_dropTrailing,
    List.rdropWhile_eq_self_iff.2 hkept]

/-- Addresses with one stem are those that differ in slashes at their ends only. -/
theorem sameStem_iff {url other : String} :
    SameStem url other ↔ dropTrailing '/' url = dropTrailing '/' other := by
  constructor
  · rintro ⟨stem, m, n, rfl, rfl⟩
    rw [dropTrailing_append_slashes, dropTrailing_append_slashes]
  · intro h
    obtain ⟨m, hm⟩ := (isStem_dropTrailing url).1
    obtain ⟨n, hn⟩ := (isStem_dropTrailing other).1
    exact ⟨_, m, n, hm, h ▸ hn⟩

/-! ## Calls for a word -/

/-- The calls that ask for a word, each with the path in front of the word. -/
def Collection.wordCalls (k : Collection) : List (String × (Client → String → Call Json)) :=
  [(k.path ++ "/search/", k.search), ("/check-username/", Client.checkUsername)]

variable {k : Collection} {path : String} {ask : Client → String → Call Json}

/-- **What is asked.** A call for a word asks without a body, at the path with the coded word behind it. -/
theorem request_ask (h : (path, ask) ∈ k.wordCalls) (c : Client) (word : String) :
    (ask c word).request = ⟨.get, c.baseUrl ++ path ++ Percent.encode word, none, c.bearer⟩ := by
  have hcall : ask c word = c.call (path ++ Percent.encode word) .get none := by
    simp only [Collection.wordCalls, List.mem_cons, Prod.mk.injEq, List.not_mem_nil, or_false] at h
    rcases h with ⟨rfl, rfl⟩ | ⟨rfl, rfl⟩
    · rfl
    · rfl
  rw [hcall, Client.call, Client.request, String.append_assoc]
  rfl

/-- **Words.** A call for a word sends one question without a body. Its address is that of the backend
without the slashes at its end, the path of the call, and one segment of unreserved characters and triples
that stands for the word. So different words go to different addresses, and one word goes to one address
exactly if the addresses of the backend differ in the slashes at their ends only. -/
theorem words_sent_coded (h : (path, ask) ∈ k.wordCalls) (url : String) (token : Option String)
    (word : String) :
    (∃ stem segment, IsStem stem url ∧ Percent.Coded segment.toList ∧
      Percent.decodeBytes segment = utf8Bytes word ∧
      ∀ line, ((ask ((Client.ofUrl url).withBearer token) word).run line).2.sent =
        line.sent ++ [⟨.get, stem ++ path ++ segment, none, token⟩]) ∧
    (∀ other, word ≠ other → (ask ((Client.ofUrl url).withBearer token) word).request.url ≠
      (ask ((Client.ofUrl url).withBearer token) other).request.url) ∧
    ∀ url', SameStem url url' ↔ (ask ((Client.ofUrl url).withBearer token) word).request.url =
      (ask ((Client.ofUrl url').withBearer token) word).request.url := by
  refine ⟨⟨dropTrailing '/' url, Percent.encode word, isStem_dropTrailing url, Percent.coded_encode word,
    Percent.decodeBytes_encode word, fun line => ?_⟩, fun other hne heq => ?_, fun url' => ?_⟩
  · rw [Call.sent_run, request_ask h]
    rfl
  · rw [request_ask h, request_ask h, String.append_right_inj, Percent.encode_inj] at heq
    exact hne heq
  · rw [request_ask h, request_ask h, String.append_left_inj, String.append_left_inj]
    exact sameStem_iff

/-- A plate number that looks coded is coded once more, and slashes behind the address of the backend do not
count. -/
theorem plates_sent_coded :
    (vehicles.path ++ "/search/", vehicles.search) ∈ vehicles.wordCalls ∧
      (vehicles.search ((Client.ofUrl "http://api.local/api//").withBearer none) "Đ/5").request.url =
        "http://api.local/api/phuong-tien/search/%C4%90%2F5" ∧
      (vehicles.search ((Client.ofUrl "http://api.local/api//").withBearer none) "Đ/5").request.url =
        (vehicles.search ((Client.ofUrl "http://api.local/api").withBearer none) "Đ/5").request.url ∧
      (vehicles.search ((Client.ofUrl "http://api.local/api//").withBearer none) "Đ/5").request.url ≠
        (vehicles.search ((Client.ofUrl "http://api.local/api//").withBearer none) "%C4%90%2F5").request.url := by
  have hmem : (vehicles.path ++ "/search/", vehicles.search) ∈ vehicles.wordCalls := List.mem_cons_self
  obtain ⟨-, hwords, hstems⟩ := words_sent_coded hmem "http://api.local/api//" none "Đ/5"
  refine ⟨hmem, by decide +kernel, (hstems _).1 ?_, hwords _ (by decide)⟩
  exact ⟨"http://api.local/api", 2, 0, by decide +kernel, by decide +kernel⟩

end ResidencePortal.Backend
