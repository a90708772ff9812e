import ResidencePortal.Proofs.Json.RoundTrip

/-!
# The parts that a reader passes

The grammar of containers is read by two loops, which do not look at what their step makes of a part. So what the
reader of values passes can be read once more by any other step: if this step stops where the reader of values
stops, the loop folds it over the parts.

**Results.**
* `moreElements_cases`, `elements_cases`, `member_cases`, `moreMembers_cases`, `members_cases`: what one round of a
  loop did that ended well.
* `shortens_value`: a reader leaves no more characters than it was given.
* `value_cases`: what a value was read as.
* `elements_fold`, `members_fold`: any other step over the parts of a list or an object.
-/

namespace ResidencePortal.Json

open ResidencePortal.Text

/-! ## One round of each loop -/

section Rounds

variable {σ : Type} {step : σ → Reader σ} {named : String → σ → Reader σ} {s t : σ} {fuel : Nat}
  {cs rest : List Char}

theorem moreElements_cases (h : moreElements step fuel s cs = some (t, rest)) :
    ∃ less, fuel = less + 1 ∧ ((skipGap cs = ']' :: rest ∧ t = s) ∨
      ∃ more next left, skipGap cs = ',' :: more ∧ step s (skipGap more) = some (next, left) ∧
        moreElements step less next left = some (t, rest)) := by
  cases fuel with
  | zero => cases h
  | succ less =>
    refine ⟨less, rfl, ?_⟩
    rw [moreElements] at h
    split at h
    next hgap =>
      cases h
      exact Or.inl ⟨hgap, rfl⟩
    next more hgap =>
      obtain ⟨⟨next, left⟩, hstep, hmore⟩ := Option.bind_eq_some_iff.1 h
      exact Or.inr ⟨more, next, left, hgap, hstep, hmore⟩
    next => cases h

theorem moreElements_of_comma {more : List Char} (hgap : skipGap cs = ',' :: more) :
    moreElements step (fuel + 1) s cs =
      (step s (skipGap more)).bind fun r => moreElements step fuel r.1 r.2 := by
  rw [moreElements, hgap]
  rfl

theorem elements_cases (h : elements step s cs = some (t, rest)) :
    (skipGap cs = ']' :: rest ∧ t = s) ∨
      ((∀ tail, skipGap cs ≠ ']' :: tail) ∧ ∃ next left, step s (skipGap cs) = some (next, left) ∧
        moreElements step left.length next left = some (t, rest)) := by
  unfold elements at h
  split at h
  next hgap =>
    cases h
    exact Or.inl ⟨hgap, rfl⟩
  next hopen =>
    obtain ⟨⟨next, left⟩, hstep, hmore⟩ := Option.bind_eq_some_iff.1 h
    exact Or.inr ⟨hopen, next, left, hstep, hmore⟩

theorem elements_of_open (hopen : ∀ tail, skipGap cs ≠ ']' :: tail) :
    elements step s cs =
      (step s (skipGap cs)).bind fun r => moreElements step r.2.length r.1 r.2 := by
  unfold elements
  split
  next hgap => exact absurd hgap (hopen _)
  next => rfl

theorem member_cases (h : member named s cs = some (t, rest)) :
    ∃ key after value, string cs = some (key, after) ∧ skipGap after = ':' :: value ∧
      named key s (skipGap value) = some (t, rest) := by
  obtain ⟨⟨key, after⟩, hkey, hvalue⟩ := Option.bind_eq_some_iff.1 h
  dsimp only at hvalue
  split at hvalue
  next value hcolon => exact ⟨key, after, value, hkey, hcolon, hvalue⟩
  next => cases hvalue

theorem member_of_key {key : String} {after value : List Char} (hkey : string cs = some (key, after))
    (hcolon : skipGap after = ':' :: value) : member named s cs = named key s (skipGap value) := by
  rw [member, hkey, Option.bind_eq_bind, Option.bind_some]
  dsimp only
  rw [hcolon]
  rfl

theorem moreMembers_cases (h : moreMembers named fuel s cs = some (t, rest)) :
    ∃ less, fuel = less + 1 ∧ ((skipGap cs = '\x7d' :: rest ∧ t = s) ∨
      ∃ more next left, skipGap cs = ',' :: more ∧ member named s (skipGap more) = some (next, left) ∧
        moreMembers named less next left = some (t, rest)) := by
  cases fuel with
  | zero => cases h
  | succ less =>
    refine ⟨less, rfl, ?_⟩
    rw [moreMembers] at h
    split at h
    next hgap =>
      cases h
      exact Or.inl ⟨hgap, rfl⟩
    next more hgap =>
      obtain ⟨⟨next, left⟩, hstep, hmore⟩ := Option.bind_eq_some_iff.1 h
      exact Or.inr ⟨more, next, left, hgap, hstep, hmore⟩
    next => cases h

theorem moreMembers_of_comma {more : List Char} (hgap : skipGap cs = ',' :: more) :
    moreMembers named (fuel + 1) s cs =
      (member named s (skipGap more)).bind fun r => moreMembers named fuel r.1 r.2 := by
  rw [moreMembers, hgap]
  rfl

theorem members_cases (h : members named s cs = some (t, rest)) :
    (skipGap cs = '\x7d' :: rest ∧ t = s) ∨
      ((∀ tail, skipGap cs ≠ '\x7d' :: tail) ∧ ∃ next left, member named s (skipGap cs) = some (next, left) ∧
        moreMembers named left.length next left = some (t, rest)) := by
  unfold members at h
  split at h
  next hgap =>
    cases h
    exact Or.inl ⟨hgap, rfl⟩
  next hopen =>
    obtain ⟨⟨next, left⟩, hstep, hmore⟩ := Option.bind_eq_some_iff.1 h
    exact Or.inr ⟨hopen, next, left, hstep, hmore⟩

theorem members_of_open (hopen : ∀ tail, skipGap cs ≠ '\x7d' :: tail) :
    members named s cs =
      (member named s (skipGap cs)).bind fun r => moreMembers named r.2.length r.1 r.2 := by
  unfold members
  split
  next hgap => exact absurd hgap (hopen _)
  next => rfl

end Rounds

/-! ## Readers shorten the text -/

/-- The reader leaves no more characters than it was given. -/
def Shortens {α : Type} (read : Reader α) : Prop :=
  ∀ {cs : List Char} {a : α} {rest : List Char}, read cs = some (a, rest) → rest.length ≤ cs.length

theorem length_skipGap_le (cs : List Char) : (skipGap cs).length ≤ cs.length :=
  (List.dropWhile_sublist isGap).length_le

/-- What stands behind a mark is shorter than what stands before the blanks in front of it. -/
theorem length_lt_of_skipGap {cs tail : List Char} {mark : Char} (h : skipGap cs = mark :: tail) :
    tail.length < cs.length := by
  have hle := length_skipGap_le cs
  rw [h, List.length_cons] at hle
  exact hle

theorem shortens_hex4 : Shortens hex4 := by
  intro cs n rest h
  unfold hex4 at h
  split at h
  next a b c d tail =>
    simp only [Option.bind_eq_bind, Option.bind_eq_some_iff, Option.some.injEq, Prod.mk.injEq] at h
    obtain ⟨_, -, _, -, _, -, _, -, -, rfl⟩ := h
    simp only [List.length_cons]
    omega
  next => cases h

/-- What a numbered escape was read from: four digits, or the two halves of a pair. -/
theorem numberedEscape_cases {cs left : List Char} {x : Char} (h : numberedEscape cs = some (x, left)) :
    (∃ n, hex4 cs = some (n, left)) ∨
      ∃ n m more, hex4 cs = some (n, '\\' :: 'u' :: more) ∧ hex4 more = some (m, left) := by
  obtain ⟨⟨n, after⟩, hn, h⟩ := Option.bind_eq_some_iff.1 h
  dsimp only at h
  split at h
  · split at h
    next more =>
      obtain ⟨⟨m, rest⟩, hm, h⟩ := Option.bind_eq_some_iff.1 h
      dsimp only at h
      split at h
      · rw [Option.some.injEq, Prod.mk.injEq] at h
        obtain ⟨-, rfl⟩ := h
        exact Or.inr ⟨n, m, more, hn, hm⟩
      · cases h
    next => cases h
  · split at h
    · cases h
    · rw [Option.some.injEq, Prod.mk.injEq] at h
      obtain ⟨-, rfl⟩ := h
      exact Or.inl ⟨n, hn⟩

theorem shortens_numberedEscape : Shortens numberedEscape := by
  intro cs x rest h
  obtain ⟨n, hn⟩ | ⟨n, m, more, hn, hm⟩ := numberedEscape_cases h
  · exact shortens_hex4 hn
  · have hmore := shortens_hex4 hn
    have hrest := shortens_hex4 hm
    simp only [List.length_cons] at hmore
    omega

theorem shortens_escape : Shortens escape := by
  intro cs x rest h
  unfold escape at h
  split at h
  next tail =>
    have htail := shortens_numberedEscape h
    rw [List.length_cons]
    omega
  next c tail _ =>
    obtain ⟨x, -, heq⟩ := Option.map_eq_some_iff.1 h
    cases heq
    exact Nat.le_succ _
  next => cases h

theorem shortens_stringBody (fuel : Nat) : Shortens (stringBody fuel) := by
  induction fuel with
  | zero => intro cs xs rest h; cases h
  | succ fuel ih =>
    intro cs xs rest h
    cases cs with
    | nil => cases h
    | cons c cs =>
      rw [List.length_cons]
      rw [stringBody] at h
      split at h
      · cases h
        exact Nat.le_succ _
      split at h
      · obtain ⟨⟨x, left⟩, hx, h⟩ := Option.bind_eq_some_iff.1 h
        obtain ⟨⟨ys, tail⟩, hys, h⟩ := Option.bind_eq_some_iff.1 h
        cases h
        have hleft := shortens_escape hx
        have htail := ih hys
        omega
      split at h
      · cases h
      · obtain ⟨⟨ys, tail⟩, hys, h⟩ := Option.bind_eq_some_iff.1 h
        cases h
        have htail := ih hys
        omega

theorem shortens_string : Shortens string := by
  intro cs s rest h
  unfold string at h
  split at h
  next tail =>
    obtain ⟨⟨xs, left⟩, hbody, heq⟩ := Option.map_eq_some_iff.1 h
    cases heq
    have hleft := shortens_stringBody _ hbody
    rw [List.length_cons]
    omega
  next => cases h

namespace Token

theorem shortens_digits : Shortens digits := by
  intro cs ds rest h
  unfold digits at h
  split at h
  next => cases h
  next =>
    cases h
    exact (List.dropWhile_sublist isDigit).length_le

theorem shortens_readWhole : Shortens readWhole := by
  intro cs ds rest h
  obtain ⟨⟨ds, left⟩, hds, h⟩ := Option.bind_eq_some_iff.1 h
  dsimp only at h
  split at h
  · cases h
  · cases h
    exact shortens_digits hds

theorem shortens_readFraction : Shortens readFraction := by
  intro cs ds rest h
  unfold readFraction at h
  split at h
  next tail =>
    obtain ⟨⟨ds, left⟩, hds, heq⟩ := Option.map_eq_some_iff.1 h
    cases heq
    have hleft := shortens_digits hds
    rw [List.length_cons]
    omega
  next =>
    cases h
    exact Nat.le_refl _

theorem length_readSign_le (cs : List Char) : (readSign cs).2.length ≤ cs.length := by
  unfold readSign
  split <;> simp

theorem shortens_readExponent : Shortens readExponent := by
  have hdigits : Shortens readExponentDigits := by
    intro cs e rest h
    obtain ⟨⟨ds, left⟩, hds, heq⟩ := Option.map_eq_some_iff.1 h
    cases heq
    exact Nat.le_trans (shortens_digits hds) (length_readSign_le cs)
  intro cs e rest h
  unfold readExponent at h
  split at h
  next tail => exact Nat.le_succ_of_le (hdigits h)
  next tail => exact Nat.le_succ_of_le (hdigits h)
  next =>
    cases h
    exact Nat.le_refl _

theorem shortens_read : Shortens read := by
  intro cs t rest h
  unfold read at h
  split at h
  rename_i negative body hsign
  have hbody : body.length ≤ cs.length := by
    split at hsign <;> cases hsign
    · exact Nat.le_succ _
    · exact Nat.le_refl _
  obtain ⟨⟨whole, left⟩, hwhole, h⟩ := Option.bind_eq_some_iff.1 h
  obtain ⟨⟨fraction, left'⟩, hfraction, h⟩ := Option.bind_eq_some_iff.1 h
  obtain ⟨⟨exponent, left''⟩, hexponent, h⟩ := Option.bind_eq_some_iff.1 h
  cases h
  have := shortens_readWhole hwhole
  have := shortens_readFraction hfraction
  have := shortens_readExponent hexponent
  omega

end Token

theorem shortens_word {α : Type} (letters : List Char) (result : α) : Shortens (word letters result) := by
  intro cs a rest h
  unfold word at h
  split at h
  · cases h
    rw [List.length_drop]
    omega
  · cases h

theorem shortens_scalar : Shortens scalar := by
  intro cs v rest h
  unfold scalar at h
  split at h
  next tail => exact Nat.le_succ_of_le (shortens_word _ _ h)
  next tail => exact Nat.le_succ_of_le (shortens_word _ _ h)
  next tail => exact Nat.le_succ_of_le (shortens_word _ _ h)
  next tail =>
    obtain ⟨⟨s, left⟩, hstring, heq⟩ := Option.map_eq_some_iff.1 h
    cases heq
    exact shortens_string hstring
  next =>
    obtain ⟨⟨t, left⟩, hread, h⟩ := Option.bind_eq_some_iff.1 h
    obtain ⟨n, -, h⟩ := Option.bind_eq_some_iff.1 h
    cases h
    exact Token.shortens_read hread

section Loops

variable {σ : Type}

theorem shortens_moreElements {step : σ → Reader σ} (hstep : ∀ s, Shortens (step s)) (fuel : Nat) (s : σ) :
    Shortens (moreElements step fuel s) := by
  induction fuel generalizing s with
  | zero => intro cs t rest h; cases h
  | succ fuel ih =>
    intro cs t rest h
    obtain ⟨less, hless, ⟨hgap, -⟩ | ⟨more, next, left, hgap, hnext, hmore⟩⟩ := moreElements_cases h
    · exact Nat.le_of_lt (length_lt_of_skipGap hgap)
    · cases hless
      have := length_lt_of_skipGap hgap
      have := length_skipGap_le more
      have := hstep s hnext
      have := ih next hmore
      omega

theorem shortens_elements {step : σ → Reader σ} (hstep : ∀ s, Shortens (step s)) (s : σ) :
    Shortens (elements step s) := by
  intro cs t rest h
  obtain ⟨hgap, -⟩ | ⟨-, next, left, hnext, hmore⟩ := elements_cases h
  · exact Nat.le_of_lt (length_lt_of_skipGap hgap)
  · have := length_skipGap_le cs
    have := hstep s hnext
    have := shortens_moreElements hstep _ next hmore
    omega

theorem shortens_member {step : String → σ → Reader σ} (hstep : ∀ key s, Shortens (step key s)) (s : σ) :
    Shortens (member step s) := by
  intro cs t rest h
  obtain ⟨key, after, value, hkey, hcolon, hvalue⟩ := member_cases h
  have := shortens_string hkey
  have := length_lt_of_skipGap hcolon
  have := length_skipGap_le value
  have := hstep key s hvalue
  omega

theorem shortens_moreMembers {step : String → σ → Reader σ} (hstep : ∀ key s, Shortens (step key s))
    (fuel : Nat) (s : σ) : Shortens (moreMembers step fuel s) := by
  induction fuel generalizing s with
  | zero => intro cs t rest h; cases h
  | succ fuel ih =>
    intro cs t rest h
    obtain ⟨less, hless, ⟨hgap, -⟩ | ⟨more, next, left, hgap, hnext, hmore⟩⟩ := moreMembers_cases h
    · exact Nat.le_of_lt (length_lt_of_skipGap hgap)
    · cases hless
      have := length_lt_of_skipGap hgap
      have := length_skipGap_le more
      have := shortens_member hstep s hnext
      have := ih next hmore
      omega

theorem shortens_members {step : String → σ → Reader σ} (hstep : ∀ key s, Shortens (step key s)) (s : σ) :
    Shortens (members step s) := by
  intro cs t rest h
  obtain ⟨hgap, -⟩ | ⟨-, next, left, hnext, hmore⟩ := members_cases h
  · exact Nat.le_of_lt (length_lt_of_skipGap hgap)
  · have := length_skipGap_le cs
    have := shortens_member hstep s hnext
    have := shortens_moreMembers hstep _ next hmore
    omega

end Loops

/-- **What a value was read as**: a list, an object, or neither. -/
theorem value_cases {d : Nat} {cs rest : List Char} {v : Json} (h : value d cs = some (v, rest)) :
    (∃ e tail items, d = e + 1 ∧ cs = '[' :: tail ∧ elements (itemStep e) [] tail = some (items, rest) ∧
      v = .arr items.reverse) ∨
    (∃ e tail ms, d = e + 1 ∧ cs = '\x7b' :: tail ∧ members (memberStep e) [] tail = some (ms, rest) ∧
      v = .obj ms) ∨
    ((∀ tail, cs ≠ '[' :: tail) ∧ (∀ tail, cs ≠ '\x7b' :: tail) ∧ scalar cs = some (v, rest)) := by
  by_cases hlist : ∃ tail, cs = '[' :: tail
  · obtain ⟨tail, rfl⟩ := hlist
    cases d with
    | zero => cases h
    | succ e =>
      rw [value_list] at h
      obtain ⟨⟨items, left⟩, hitems, heq⟩ := Option.map_eq_some_iff.1 h
      cases heq
      exact Or.inl ⟨e, tail, items, rfl, rfl, hitems, rfl⟩
  by_cases hobject : ∃ tail, cs = '\x7b' :: tail
  · obtain ⟨tail, rfl⟩ := hobject
    cases d with
    | zero => cases h
    | succ e =>
      rw [value_object] at h
      obtain ⟨⟨ms, left⟩, hms, heq⟩ := Option.map_eq_some_iff.1 h
      cases heq
      exact Or.inr (Or.inl ⟨e, tail, ms, rfl, rfl, hms, rfl⟩)
  refine Or.inr (Or.inr ⟨fun tail heq => hlist ⟨tail, heq⟩, fun tail heq => hobject ⟨tail, heq⟩, ?_⟩)
  cases cs with
  | nil => cases d <;> exact h
  | cons c cs =>
    have hc : c ≠ '[' := fun heq => hlist ⟨cs, by rw [heq]⟩
    have hc' : c ≠ '\x7b' := fun heq => hobject ⟨cs, by rw [heq]⟩
    rwa [value_scalar hc hc'] at h

theorem itemStep_cases {d : Nat} {acc next : List Json} {cs left : List Char}
    (h : itemStep d acc cs = some (next, left)) : ∃ v, value d cs = some (v, left) ∧ next = v :: acc := by
  obtain ⟨⟨v, _⟩, hvalue, heq⟩ := Option.map_eq_some_iff.1 h
  cases heq
  exact ⟨v, hvalue, rfl⟩

theorem memberStep_cases {d : Nat} {key : String} {acc next : List (String × Json)} {cs left : List Char}
    (h : memberStep d key acc cs = some (next, left)) :
    ∃ v, value d cs = some (v, left) ∧ next = Entries.insert key v acc := by
  obtain ⟨⟨v, _⟩, hvalue, heq⟩ := Option.map_eq_some_iff.1 h
  cases heq
  exact ⟨v, hvalue, rfl⟩

/-- **Values** leave no more characters than they were read from. -/
theorem shortens_value (d : Nat) : Shortens (value d) := by
  induction d with
  | zero =>
    intro cs v rest h
    obtain ⟨e, _, _, hd, -⟩ | ⟨e, _, _, hd, -⟩ | ⟨-, -, hscalar⟩ := value_cases h
    · cases hd
    · cases hd
    · exact shortens_scalar hscalar
  | succ d ih =>
    have hitem : ∀ s, Shortens (itemStep d s) := by
      intro s cs t rest h
      obtain ⟨v, hvalue, -⟩ := itemStep_cases h
      exact ih hvalue
    have hmember : ∀ key s, Shortens (memberStep d key s) := by
      intro key s cs t rest h
      obtain ⟨v, hvalue, -⟩ := memberStep_cases h
      exact ih hvalue
    intro cs v rest h
    obtain ⟨e, tail, items, hd, rfl, hitems, -⟩ | ⟨e, tail, ms, hd, rfl, hms, -⟩ | ⟨-, -, hscalar⟩ :=
      value_cases h
    · cases hd
      exact Nat.le_succ_of_le (shortens_elements hitem [] hitems)
    · cases hd
      exact Nat.le_succ_of_le (shortens_members hmember [] hms)
    · exact shortens_scalar hscalar

/-! ## Another step over the parts -/

/-- Where a value is read from at most `n` characters, the step stops behind it and turns the state as `f` says. -/
def FollowsItems {σ : Type} (d n : Nat) (step : σ → Reader σ) (f : σ → Json → Option σ) : Prop :=
  ∀ (s : σ) {cs : List Char} {v : Json} {rest : List Char}, cs.length ≤ n → value d cs = some (v, rest) →
    step s cs = (f s v).map fun s => (s, rest)

/-- The same behind a key. -/
def FollowsMembers {σ : Type} (d n : Nat) (step : String → σ → Reader σ)
    (f : σ → String × Json → Option σ) : Prop :=
  ∀ (key : String) (s : σ) {cs : List Char} {v : Json} {rest : List Char}, cs.length ≤ n →
    value d cs = some (v, rest) → step key s cs = (f s (key, v)).map fun s => (s, rest)

theorem moreElements_fold {d n fuel : Nat} {acc items : List Json} {cs rest : List Char}
    (hcs : cs.length ≤ n) (h : moreElements (itemStep d) fuel acc cs = some (items, rest)) :
    ∃ added : List Json, items = added.reverse ++ acc ∧
      ∀ {σ : Type} {step : σ → Reader σ} {f : σ → Json → Option σ}, FollowsItems d n step f →
        ∀ s, moreElements step fuel s cs = (added.foldlM f s).map fun s => (s, rest) := by
  induction fuel generalizing acc cs with
  | zero => cases h
  | succ fuel ih =>
    obtain ⟨less, hless, ⟨hgap, rfl⟩ | ⟨more, next, left, hgap, hnext, hmore⟩⟩ := moreElements_cases h
    · refine ⟨[], rfl, fun hfollows s => ?_⟩
      rw [moreElements, hgap]
      rfl
    · cases hless
      obtain ⟨v, hvalue, rfl⟩ := itemStep_cases hnext
      have hmark := length_lt_of_skipGap hgap
      have hblanks := length_skipGap_le more
      have hleft := shortens_value d hvalue
      obtain ⟨added, hitems, hfold⟩ := ih (by omega) hmore
      refine ⟨v :: added, by rw [hitems, List.reverse_cons, List.append_assoc]; rfl, ?_⟩
      intro σ step f hfollows s
      rw [moreElements_of_comma hgap, hfollows s (by omega) hvalue, List.foldlM_cons]
      cases f s v with
      | none => rfl
      | some next => exact hfold hfollows next

/-- **Items.** Another step over the items of a list that was read. -/
theorem elements_fold {d : Nat} {items : List Json} {cs rest : List Char}
    (h : elements (itemStep d) [] cs = some (items, rest)) {σ : Type} {step : σ → Reader σ}
    {f : σ → Json → Option σ} (hfollows : FollowsItems d cs.length step f) (s : σ) :
    elements step s cs = (items.reverse.foldlM f s).map fun s => (s, rest) := by
  obtain ⟨hgap, rfl⟩ | ⟨hopen, next, left, hnext, hmore⟩ := elements_cases h
  · rw [elements, hgap]
    rfl
  · obtain ⟨v, hvalue, rfl⟩ := itemStep_cases hnext
    have hblanks := length_skipGap_le cs
    have hleft := shortens_value d hvalue
    obtain ⟨added, rfl, hfold⟩ := moreElements_fold (n := cs.length) (by omega) hmore
    rw [elements_of_open hopen, hfollows s hblanks hvalue, List.reverse_append, List.reverse_reverse,
      List.reverse_singleton, List.singleton_append, List.foldlM_cons]
    cases f s v with
    | none => rfl
    | some next => exact hfold hfollows next

/-- One member, read by another step. -/
theorem member_fold {d n : Nat} {acc next : List (String × Json)} {cs left : List Char} (hcs : cs.length ≤ n)
    (h : member (memberStep d) acc cs = some (next, left)) :
    ∃ m : String × Json, next = Entries.insert m.1 m.2 acc ∧ left.length ≤ cs.length ∧
      ∀ {σ : Type} {step : String → σ → Reader σ} {f : σ → String × Json → Option σ},
        FollowsMembers d n step f → ∀ s, member step s cs = (f s m).map fun s => (s, left) := by
  obtain ⟨key, after, value, hkey, hcolon, hnext⟩ := member_cases h
  obtain ⟨v, hvalue, rfl⟩ := memberStep_cases hnext
  have hafter := shortens_string hkey
  have hmark := length_lt_of_skipGap hcolon
  have hblanks := length_skipGap_le value
  have hleft := shortens_value d hvalue
  refine ⟨(key, v), rfl, by omega, fun hfollows s => ?_⟩
  rw [member_of_key hkey hcolon]
  exact hfollows key s (by omega) hvalue

theorem moreMembers_fold {d n fuel : Nat} {acc ms : List (String × Json)} {cs rest : List Char}
    (hcs : cs.length ≤ n) (h : moreMembers (memberStep d) fuel acc cs = some (ms, rest)) :
    ∃ added : List (String × Json), ms = added.foldl (fun acc m => Entries.insert m.1 m.2 acc) acc ∧
      ∀ {σ : Type} {step : String → σ → Reader σ} {f : σ → String × Json → Option σ},
        FollowsMembers d n step f →
        ∀ s, moreMembers step fuel s cs = (added.foldlM f s).map fun s => (s, rest) := by
  induction fuel generalizing acc cs with
  | zero => cases h
  | succ fuel ih =>
    obtain ⟨less, hless, ⟨hgap, rfl⟩ | ⟨more, next, left, hgap, hnext, hmore⟩⟩ := moreMembers_cases h
    · refine ⟨[], rfl, fun hfollows s => ?_⟩
      rw [moreMembers, hgap]
      rfl
    · cases hless
      have hmark := length_lt_of_skipGap hgap
      have hblanks := length_skipGap_le more
      obtain ⟨m, rfl, hleft, hmember⟩ := member_fold (n := n) (by omega) hnext
      obtain ⟨added, hms, hfold⟩ := ih (by omega) hmore
      refine ⟨m :: added, hms, ?_⟩
      intro σ step f hfollows s
      rw [moreMembers_of_comma hgap, hmember hfollows s, List.foldlM_cons]
      cases f s m with
      | none => rfl
      | some next => exact hfold hfollows next

/-- **Members.** Another step over the members of an object that was read, in the order of the text and each as
often as it was given. -/
theorem members_fold {d : Nat} {ms : List (String × Json)} {cs rest : List Char}
    (h : members (memberStep d) [] cs = some (ms, rest)) :
    ∃ added : List (String × Json), ms = added.foldl (fun acc m => Entries.insert m.1 m.2 acc) [] ∧
      ∀ {σ : Type} {step : String → σ → Reader σ} {f : σ → String × Json → Option σ},
        FollowsMembers d cs.length step f →
        ∀ s, members step s cs = (added.foldlM f s).map fun s => (s, rest) := by
  obtain ⟨hgap, rfl⟩ | ⟨hopen, next, left, hnext, hmore⟩ := members_cases h
  · refine ⟨[], rfl, fun hfollows s => ?_⟩
    rw [members, hgap]
    rfl
  · have hblanks := length_skipGap_le cs
    obtain ⟨m, rfl, hleft, hmember⟩ := member_fold hblanks hnext
    obtain ⟨added, hms, hfold⟩ := moreMembers_fold (n := cs.length) (by omega) hmore
    refine ⟨m :: added, hms, ?_⟩
    intro σ step f hfollows s
    rw [members_of_open hopen, hmember hfollows s, List.foldlM_cons]
    cases f s m with
    | none => rfl
    | some next => exact hfold hfollows next

end ResidencePortal.Json
