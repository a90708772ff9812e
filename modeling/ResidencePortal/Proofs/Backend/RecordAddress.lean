import ResidencePortal.Backend.Endpoint
import ResidencePortal.Proofs.Text.PercentCoding

/-!
# The addresses of records

A record is read, changed and deleted at the path of its collection with its identifier behind it. Unlike
login names and search words, the identifier is not percent-coded there. So it is one segment that stands for
it only if it holds no divider and no escape; every other identifier addresses something else, and some
address a search.

**Results.**
* `namesRecord_recordUrl_iff`: which identifiers are one segment that stands for them.
* `namesRecord_of_encode`: an identifier that the caller codes is addressed as it should be.
* `search_eq_get`: every search is the reading of a record.
* `records_addressed_verbatim`: what the calls for one record send.
* `record_call_is_search`: reading a record that sends what a search sends.
-/

namespace ResidencePortal.Backend

open Text

namespace Collection

/-- The calls for one record. -/
def recordCalls (k : Collection) (c : Client) (id : String) (payload : Json) : List (Call Json) :=
  [k.get c id, k.update c id payload, k.delete c id]

/-- The address of a record, its identifier as it stands. -/
def recordUrl (k : Collection) (c : Client) (id : String) : String := c.baseUrl ++ k.path ++ "/" ++ id

/-- The address is that of the collection and one segment more, which stands for the identifier. -/
def NamesRecord (k : Collection) (c : Client) (url id : String) : Prop :=
  ∃ segment, url = c.baseUrl ++ k.path ++ "/" ++ segment ∧
    (∀ x ∈ segment.toList, x ∉ Percent.dividers) ∧ Percent.decodeBytes segment = utf8Bytes id

variable {k : Collection} {c : Client} {id other : String}

theorem recordUrl_inj : k.recordUrl c id = k.recordUrl c other ↔ id = other := String.append_right_inj _

/-- **One record.** An identifier is one segment that stands for it exactly if it holds no divider and no
escape. -/
theorem namesRecord_recordUrl_iff :
    k.NamesRecord c (k.recordUrl c id) id ↔
      (∀ x ∈ id.toList, x ∉ Percent.dividers) ∧ ¬ Percent.HoldsEscape id.toList := by
  rw [← Percent.decodeBytes_eq_iff]
  constructor
  · rintro ⟨segment, hurl, hsegment⟩
    obtain rfl : id = segment := (String.append_right_inj _).1 hurl
    exact hsegment
  · intro hsegment
    exact ⟨id, rfl, hsegment⟩

/-- What the caller codes is addressed as it should be. -/
theorem namesRecord_of_encode (k : Collection) (c : Client) (raw : String) :
    k.NamesRecord c (k.recordUrl c (Percent.encode raw)) raw :=
  ⟨Percent.encode raw, rfl, Percent.not_mem_encode raw, Percent.decodeBytes_encode raw⟩

/-- The calls for one record differ in method and body only. -/
theorem url_of_mem_recordCalls {payload : Json} {call : Call Json} (h : call ∈ k.recordCalls c id payload) :
    call.request.url = k.recordUrl c id := by
  have hpath : c.baseUrl ++ k.recordPath id = k.recordUrl c id := by
    simp only [recordPath, recordUrl, String.append_assoc]
  simp only [recordCalls, List.mem_cons, List.not_mem_nil, or_false] at h
  rcases h with rfl | rfl | rfl <;> exact hpath

/-- A search is the reading of a record whose identifier starts like one. -/
theorem search_eq_get (k : Collection) (c : Client) (word : String) :
    k.search c word = k.get c ("search/" ++ Percent.encode word) := by
  have hslash : "/search/" = "/" ++ "search/" := rfl
  have hpath : k.path ++ "/search/" ++ Percent.encode word =
      k.recordPath ("search/" ++ Percent.encode word) := by
    simp only [recordPath, hslash, String.append_assoc]
  rw [search, hpath, get]

/-- Calls for records that send the same are for the same record. -/
theorem id_eq_of_request_eq {payload payload' : Json} {call call' : Call Json}
    (hcall : call ∈ k.recordCalls c id payload) (hcall' : call' ∈ k.recordCalls c other payload')
    (h : call.request = call'.request) : id = other := by
  rw [← recordUrl_inj, ← url_of_mem_recordCalls hcall, ← url_of_mem_recordCalls hcall', h]

/-- A call for one record sends what a search sends only if its identifier starts like one. -/
theorem exists_request_eq_search_iff {payload : Json} {word : String} :
    (∃ call ∈ k.recordCalls c id payload, call.request = (k.search c word).request) ↔
      id = "search/" ++ Percent.encode word := by
  rw [search_eq_get]
  constructor
  · rintro ⟨call, hcall, hrequest⟩
    have hget : k.get c _ ∈ k.recordCalls c ("search/" ++ Percent.encode word) payload :=
      List.mem_cons_self
    exact id_eq_of_request_eq hcall hget hrequest
  · rintro rfl
    exact ⟨k.get c _, List.mem_cons_self, rfl⟩

end Collection

open Collection

/-- **Addresses of records.** Every call for one record sends one request, to the address of the collection
with the identifier behind it as it stands. The identifier is one segment that stands for it exactly if it
holds no divider and no escape, so it is always if the caller codes it. Calls for different identifiers never
send the same, but a call sends what a search sends where the identifier is one with the word of the search. -/
theorem records_addressed_verbatim (k : Collection) (c : Client) (id : String) (payload : Json) :
    (∀ call ∈ k.recordCalls c id payload, call.request.url = c.baseUrl ++ k.path ++ "/" ++ id ∧
      ∀ line, (call.run line).2.sent = line.sent ++ [call.request]) ∧
    (∀ call ∈ k.recordCalls c id payload, k.NamesRecord c call.request.url id ↔
      (∀ x ∈ id.toList, x ∉ Percent.dividers) ∧ ¬ Percent.HoldsEscape id.toList) ∧
    (∀ raw, id = Percent.encode raw → ∀ call ∈ k.recordCalls c id payload,
      k.NamesRecord c call.request.url raw) ∧
    (∀ other payload', ∀ call ∈ k.recordCalls c id payload, ∀ call' ∈ k.recordCalls c other payload',
      call.request = call'.request → id = other) ∧
    ∀ word, (∃ call ∈ k.recordCalls c id payload, call.request = (k.search c word).request) ↔
      id = "search/" ++ Percent.encode word := by
  refine ⟨fun call hcall => ⟨url_of_mem_recordCalls hcall, call.sent_run⟩, fun call hcall => ?_,
    fun raw hraw call hcall => ?_, fun other payload' call hcall call' hcall' => ?_, fun word => ?_⟩
  · rw [url_of_mem_recordCalls hcall]
    exact namesRecord_recordUrl_iff
  · rw [url_of_mem_recordCalls hcall, hraw]
    exact namesRecord_of_encode k c raw
  · exact id_eq_of_request_eq hcall hcall'
  · exact exists_request_eq_search_iff

/-- The collection of vehicles. -/
def vehicles : Collection := ⟨"/phuong-tien"⟩

/-- A client without a token. -/
def localClient : Client := .ofUrl "http://api.local/api"

/-- A plate number stands for itself, and one with a slash does if it is coded. -/
theorem plates_addressed :
    vehicles.NamesRecord localClient (vehicles.delete localClient "30A-1.2").request.url "30A-1.2" ∧
      vehicles.NamesRecord localClient (vehicles.get localClient "30A%2F1").request.url "30A/1" := by
  obtain ⟨-, hplain, -⟩ := records_addressed_verbatim vehicles localClient "30A-1.2" .null
  obtain ⟨-, -, hcoded, -⟩ := records_addressed_verbatim vehicles localClient "30A%2F1" .null
  constructor
  · have hdelete : vehicles.delete localClient "30A-1.2" ∈
        vehicles.recordCalls localClient "30A-1.2" .null := List.mem_cons_of_mem _ (by simp)
    refine (hplain _ hdelete).2 ⟨by simp [Percent.dividers], ?_⟩
    rintro ⟨front, hi, lo, back, hid, -⟩
    have hpercent : '%' ∈ "30A-1.2".toList := hid ▸ List.mem_append_right front List.mem_cons_self
    exact absurd hpercent (by decide)
  · exact hcoded "30A/1" (by decide +kernel) _ List.mem_cons_self

/-- An identifier with a slash is no segment: reading its record sends what a search for vehicles sends. -/
theorem record_call_is_search :
    Collection.forPage? "phuong-tien" = some vehicles ∧
      (vehicles.get localClient "search/30A").request = (vehicles.search localClient "30A").request ∧
      ¬ vehicles.NamesRecord localClient (vehicles.get localClient "search/30A").request.url "search/30A" := by
  have hid : "search/" ++ Percent.encode "30A" = "search/30A" := by decide +kernel
  refine ⟨by decide, ?_, ?_⟩
  · rw [search_eq_get, hid]
  · have hget : vehicles.get localClient "search/30A" ∈
        vehicles.recordCalls localClient "search/30A" .null := List.mem_cons_self
    rw [url_of_mem_recordCalls hget, namesRecord_recordUrl_iff]
    rintro ⟨hdividers, -⟩
    exact hdividers '/' (by decide) (by decide)

end ResidencePortal.Backend
