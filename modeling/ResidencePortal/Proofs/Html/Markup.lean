import Mathlib.Data.List.Forall2
import ResidencePortal.Proofs.Html.LayoutText
import ResidencePortal.Proofs.Json.IntegerText

/-!
# The markup of a document

Tags and attributes are made of four characters: `<`, `>` and the two quotes. What is left of a text if
all others are dropped is its markup. An escaped text has none. So the markup of a document comes from the
text of its template, and values decide only how often a part is written: by the tests they are put to and
by the number of items in a list.

Two contexts are alike for a template if its slots write no markup in either, its tests come out the same
in both, and its lists are as long in both, with items that are alike in turn.

**Results.**
* `markup_escape`: an escaped text has no markup.
* `Template.Alike.markup_eval`: in contexts that are alike a template writes the same markup.
* `alike_layout`: two contexts whose menus have the same shape are alike for the layout if they are for
  what stands in it.
* `alike_dashboardContent`, `alike_pageContent`, `alike_loginPage`: when two contexts are alike for the
  contents of the pages and for the login page.
-/

namespace ResidencePortal.Html

open Text

/-! ## Markup -/

/-- A character that opens or closes a tag or an attribute. -/
def isMarkup (c : Char) : Bool := c == '<' || c == '>' || c == '"' || c == '\''

/-- The markup of a text: its characters of this kind, in order. -/
def markup (s : String) : List Char := s.toList.filter isMarkup

@[simp] theorem markup_append (s t : String) : markup (s ++ t) = markup s ++ markup t := by
  simp [markup]

theorem markup_eq_nil {s : String} : markup s = [] ↔ ∀ c ∈ s.toList, isMarkup c = false := by
  simp [markup, List.filter_eq_nil_iff]

theorem filter_isMarkup_escapeChar (c : Char) : (escapeChar c).filter isMarkup = [] := by
  unfold escapeChar
  -- Each entity is a fixed text; in the last case the character is none of those that are replaced.
  split_ifs with hamp hless hgreater hquote hapostrophe hslash
  iterate 6 decide
  simp [isMarkup, hless, hgreater, hquote, hapostrophe]

/-- An escaped text has no markup. -/
@[simp] theorem markup_escape (s : String) : markup (escape s) = [] := by
  rw [markup, escape, String.toList_ofList, List.filter_flatMap]
  simp only [filter_isMarkup_escapeChar, List.flatMap_eq_nil_iff, implies_true]

theorem markup_natText (n : Nat) : markup (natText n) = [] := by
  rw [markup_eq_nil, natText, String.toList_ofList]
  intro c hc
  have hdigit := isDigit_of_mem_natChars c hc
  by_contra hmarkup
  simp only [isMarkup, Bool.not_eq_false, Bool.or_eq_true, beq_iff_eq] at hmarkup
  rcases hmarkup with ((rfl | rfl) | rfl) | rfl <;> exact absurd hdigit (by decide)

/-- A value that a slot writes without markup. -/
def IsQuiet (v : Json) : Prop := markup (slotText v) = []

@[simp] theorem isQuiet_str (s : String) : IsQuiet (.str s) := markup_escape s

@[simp] theorem isQuiet_ofText? (s : Option String) : IsQuiet (Json.ofText? s) := by
  cases s with
  | none => rfl
  | some s => exact isQuiet_str s

@[simp] theorem isQuiet_ofNat (n : Nat) : IsQuiet (.ofNat n) := markup_natText n

/-! ## Contexts that are alike -/

/-- The slot writes no markup. -/
def Slot.Quiet (s : Slot) (ctx : Context) : Prop := ∀ text, s.fill ctx = some text → markup text = []

theorem Slot.quiet_value {ctx : Context} {path : List String}
    (h : ∀ v, ctx.find? path = some v → IsQuiet v) : (Slot.value path).Quiet ctx := by
  intro text htext
  obtain ⟨v, hv, rfl⟩ := Option.map_eq_some_iff.1 htext
  exact h v hv

theorem Slot.quiet_valueOr {ctx : Context} {path : List String} (fallback : String)
    (h : ∀ v, ctx.find? path = some v → IsQuiet v) : (Slot.valueOr path fallback).Quiet ctx := by
  intro text htext
  simp only [Slot.fill] at htext
  split at htext <;> cases htext
  · exact markup_escape fallback
  · exact markup_escape fallback
  · exact h _ ‹_›

namespace Template

/-- The two contexts are alike for the template. -/
def Alike (c d : Context) : Template → Prop
  | done => True
  | text _ rest => rest.Alike c d
  | slot s rest => (s.Quiet c ∧ s.Quiet d) ∧ rest.Alike c d
  | choose test yes no rest =>
    (test.check c = test.check d ∧ yes.Alike c d ∧ no.Alike c d) ∧ rest.Alike c d
  | forEach name list body rest =>
    (∀ vs ws, (c.find? list).bind itemsOf? = some vs → (d.find? list).bind itemsOf? = some ws →
      List.Forall₂ (fun v w => body.Alike ((name, v) :: c) ((name, w) :: d)) vs ws) ∧
    rest.Alike c d

variable {c d : Context}

@[simp] theorem alike_done : Alike c d done := trivial

@[simp] theorem alike_text {s : String} {rest : Template} :
    Alike c d (text s rest) ↔ Alike c d rest := Iff.rfl

@[simp] theorem alike_slot {s : Slot} {rest : Template} :
    Alike c d (slot s rest) ↔ (s.Quiet c ∧ s.Quiet d) ∧ Alike c d rest := Iff.rfl

theorem alike_forEach {name : String} {list : List String} {body rest : Template} {vs ws : List Json}
    (hvs : c.find? list = some (.arr vs)) (hws : d.find? list = some (.arr ws)) :
    Alike c d (forEach name list body rest) ↔
      List.Forall₂ (fun v w => body.Alike ((name, v) :: c) ((name, w) :: d)) vs ws ∧ Alike c d rest := by
  simp [Alike, hvs, hws, itemsOf?]

@[simp] theorem alike_append {t u : Template} :
    Alike c d (t.append u) ↔ Alike c d t ∧ Alike c d u := by
  induction t with
  | done => simp [append]
  | text s rest ih => exact ih
  | slot s rest ih => simp only [append, Alike, ih, and_assoc]
  | choose test yes no rest _ _ ih => simp only [append, Alike, ih, and_assoc]
  | forEach name list body rest _ ih => simp only [append, Alike, ih, and_assoc]

/-- Texts that have the same markup one by one have the same markup in a row. -/
theorem markup_joinAll {α β : Type} {f : α → Option String} {g : β → Option String} {vs : List α}
    {ws : List β} {a b : String}
    (h : List.Forall₂ (fun v w => ∀ {a b}, f v = some a → g w = some b → markup a = markup b) vs ws)
    (ha : joinAll (vs.map f) = some a) (hb : joinAll (ws.map g) = some b) : markup a = markup b := by
  induction h generalizing a b with
  | nil =>
    cases ha
    cases hb
    rfl
  | cons hhead _ ih =>
    obtain ⟨a₁, ha₁, ha⟩ := Option.bind_eq_some_iff.1 ha
    obtain ⟨a₂, ha₂, ha⟩ := Option.bind_eq_some_iff.1 ha
    obtain ⟨b₁, hb₁, hb⟩ := Option.bind_eq_some_iff.1 hb
    obtain ⟨b₂, hb₂, hb⟩ := Option.bind_eq_some_iff.1 hb
    cases ha
    cases hb
    rw [markup_append, markup_append, hhead ha₁ hb₁, ih ha₂ hb₂]

/-- **Two contexts.** In contexts that are alike for a template, it writes the same markup. -/
theorem Alike.markup_eval {t : Template} (h : t.Alike c d) {a b : String} (ha : t.eval c = some a)
    (hb : t.eval d = some b) : markup a = markup b := by
  induction t generalizing c d a b with
  | done =>
    cases ha
    cases hb
    rfl
  | text s rest ih =>
    obtain ⟨a', ha', rfl⟩ := eval_text_eq_some ha
    obtain ⟨b', hb', rfl⟩ := eval_text_eq_some hb
    rw [markup_append, markup_append, ih h ha' hb']
  | slot s rest ih =>
    obtain ⟨⟨hc, hd⟩, hrest⟩ := h
    obtain ⟨a₁, a₂, ha₁, ha₂, rfl⟩ := eval_slot_eq_some ha
    obtain ⟨b₁, b₂, hb₁, hb₂, rfl⟩ := eval_slot_eq_some hb
    rw [markup_append, markup_append, hc a₁ ha₁, hd b₁ hb₁, ih hrest ha₂ hb₂]
  | choose test yes no rest ihYes ihNo ih =>
    obtain ⟨⟨htest, hyes, hno⟩, hrest⟩ := h
    obtain ⟨chosen, a₁, a₂, hchosen, ha₁, ha₂, rfl⟩ := eval_choose_eq_some ha
    obtain ⟨chosen', b₁, b₂, hchosen', hb₁, hb₂, rfl⟩ := eval_choose_eq_some hb
    -- Both tests choose the same branch.
    rw [htest, hchosen', Option.some_inj] at hchosen
    subst hchosen
    rw [markup_append, markup_append, ih hrest ha₂ hb₂]
    cases chosen' with
    | true => rw [ihYes hyes ha₁ hb₁]
    | false => rw [ihNo hno ha₁ hb₁]
  | forEach name list body rest ihBody ih =>
    obtain ⟨hitems, hrest⟩ := h
    obtain ⟨vs, a₁, a₂, hvs, ha₁, ha₂, rfl⟩ := eval_forEach_eq_some ha
    obtain ⟨ws, b₁, b₂, hws, hb₁, hb₂, rfl⟩ := eval_forEach_eq_some hb
    have hbodies := markup_joinAll ((hitems vs ws hvs hws).imp fun _ _ hbody _ _ => ihBody hbody) ha₁ hb₁
    rw [markup_append, markup_append, hbodies, ih hrest ha₂ hb₂]

end Template

/-! ## The shape of a menu -/

/-- The shape of a menu item: its region and the shapes of the items below it. -/
inductive MenuShape where
  | mk (region : Option Region) (below : List MenuShape)
deriving Repr

mutual

/-- The shape of a menu item; an item that leads to a page has nothing below it. -/
def MenuShape.ofItem : MenuItem → MenuShape
  | .leaf e => .mk e.region []
  | .node e children => .mk e.region (MenuShape.ofItems children)

/-- The shapes of menu items. -/
def MenuShape.ofItems : List MenuItem → List MenuShape
  | [] => []
  | item :: rest => .ofItem item :: MenuShape.ofItems rest

end

/-- The items below a menu item. -/
def below : MenuItem → List MenuItem
  | .leaf _ => []
  | .node _ children => children

theorem MenuShape.ofItem_eq (item : MenuItem) :
    ofItem item = .mk item.entry.region (ofItems (below item)) := by
  cases item <;> rfl

theorem MenuShape.ofItem_inj {item other : MenuItem} (h : ofItem item = ofItem other) :
    item.entry.region = other.entry.region ∧ ofItems (below item) = ofItems (below other) := by
  rw [ofItem_eq, ofItem_eq] at h
  exact MenuShape.mk.inj h

/-- Menus of the same shape are as long, with items of the same shape. -/
theorem MenuShape.forall₂_listToJson {R : Json → Json → Prop} {items others : List MenuItem}
    (h : ofItems items = ofItems others)
    (hR : ∀ item other : MenuItem, ofItem item = ofItem other → R item.toJson other.toJson) :
    List.Forall₂ R (MenuItem.listToJson items) (MenuItem.listToJson others) := by
  induction items generalizing others with
  | nil =>
    cases others with
    | nil => exact .nil
    | cons other others => cases h
  | cons item items ih =>
    cases others with
    | nil => cases h
    | cons other others =>
      obtain ⟨hitem, hitems⟩ := List.cons.inj h
      exact .cons (hR item other hitem) (ih hitems)

/-! ## Menu entries -/

section Menu

variable {c d : Context} {item other : MenuItem}

theorem get?_region (item : MenuItem) :
    item.toJson.get? "region" = some (Json.ofText? (item.entry.region.map Region.id)) := by
  cases item <;> simp [MenuItem.toJson, MenuItem.entry, get?_toJsonWith, Entries.find?]

theorem isTruthy_childrenOf (item : MenuItem) :
    isTruthy (childrenOf item) = !(MenuShape.ofItems (below item)).isEmpty := by
  cases item with
  | leaf e => rfl
  | node e children => cases children <;> rfl

/-- The slot of a member of a menu item writes no markup if the member is quiet. -/
theorem quiet_member {name key : String} {v w : Json} (ctx : Context) (h : v.get? key = some w)
    (hw : IsQuiet w) : (Slot.value [name, key]).Quiet ((name, v) :: ctx) := by
  refine Slot.quiet_value fun u hu => ?_
  rw [Context.find?_cons_self h, Option.some_inj] at hu
  exact hu ▸ hw

theorem alike_menuLink (h : item.entry.region = other.entry.region) (name indent : String) :
    (menuLink name indent).Alike ((name, item.toJson) :: c) ((name, other.toJson) :: d) := by
  have hquiet : ∀ (ctx : Context) (i : MenuItem), ∀ key ∈ ["region", "path", "title"],
      (Slot.value [name, key]).Quiet ((name, i.toJson) :: ctx) := by
    intro ctx i
    obtain ⟨htitle, hpath⟩ := get?_toJson i
    simp [quiet_member ctx (get?_region i), quiet_member ctx hpath, quiet_member ctx htitle]
  have hmark : (Test.holds [name, "region"]).check ((name, item.toJson) :: c) =
      (Test.holds [name, "region"]).check ((name, other.toJson) :: d) := by
    simp only [Test.check, Context.find?_cons_self (get?_region _), h]
  have hc := hquiet c item
  have hd := hquiet d other
  simp only [List.mem_cons, List.not_mem_nil, or_false, forall_eq_or_imp, forall_eq] at hc hd
  simp [menuLink, regionMark, Template.ofParts, Template.lines, Template.put, Template.Alike, hmark,
    hc, hd]

/-- What is repeated for the items below an item, if anything. -/
theorem itemsOf?_childrenOf {item : MenuItem} {vs : List Json}
    (h : itemsOf? (childrenOf item) = some vs) : vs = MenuItem.listToJson (below item) := by
  cases item with
  | leaf e => cases h
  | node e children =>
    cases h
    rfl

theorem alike_menuGroup (h : MenuShape.ofItems (below item) = MenuShape.ofItems (below other)) :
    menuGroup.Alike (("menu", item.toJson) :: c) (("menu", other.toJson) :: d) := by
  have htitle : ∀ (ctx : Context) (i : MenuItem),
      (Slot.value ["menu", "title"]).Quiet (("menu", i.toJson) :: ctx) := fun ctx i =>
    quiet_member ctx (get?_toJson i).1 (isQuiet_str _)
  have hlinks : ∀ vs ws,
      itemsOf? (childrenOf item) = some vs → itemsOf? (childrenOf other) = some ws →
      List.Forall₂ (fun v w => (menuLink "child" "                ").Alike
        (("child", v) :: ("menu", item.toJson) :: c) (("child", w) :: ("menu", other.toJson) :: d))
        vs ws := by
    intro vs ws hvs hws
    rw [itemsOf?_childrenOf hvs, itemsOf?_childrenOf hws]
    exact MenuShape.forall₂_listToJson h fun i o hshape =>
      alike_menuLink (MenuShape.ofItem_inj hshape).1 "child" _
  simp only [menuGroup, Template.ofParts, Template.lines, Template.put, List.foldr, Template.Alike,
    Context.find?_cons_self (get?_children _), Option.bind_some, and_true]
  exact ⟨⟨htitle c item, htitle d other⟩, hlinks⟩

/-- Items of the same shape are alike: both are groups with items of the same shapes, or both links. -/
theorem alike_menuEntry (h : MenuShape.ofItem item = MenuShape.ofItem other) {rest : Template}
    (hrest : rest.Alike (("menu", item.toJson) :: c) (("menu", other.toJson) :: d)) :
    (Template.choose (.holds ["menu", "children"]) menuGroup (menuLink "menu" "        ") rest).Alike
      (("menu", item.toJson) :: c) (("menu", other.toJson) :: d) := by
  obtain ⟨hregion, hbelow⟩ := MenuShape.ofItem_inj h
  have htest : (Test.holds ["menu", "children"]).check (("menu", item.toJson) :: c) =
      (Test.holds ["menu", "children"]).check (("menu", other.toJson) :: d) := by
    simp only [Test.check, Context.find?_cons_self (get?_children _), Option.any_some,
      isTruthy_childrenOf, hbelow]
  exact ⟨⟨htest, alike_menuGroup hbelow, alike_menuLink hregion "menu" _⟩, hrest⟩

end Menu

/-! ## Documents -/

/-- The values of a context, other than its lists, are quiet. -/
def Context.Quiet (ctx : Context) : Prop :=
  ∀ e ∈ ctx, e.1 ∉ ["menus", "visible_regions"] → IsQuiet e.2

theorem Context.Quiet.find? {ctx : Context} (h : ctx.Quiet) {name : String}
    (hname : name ∉ ["menus", "visible_regions"]) {v : Json} (hv : ctx.find? [name] = some v) :
    IsQuiet v := by
  obtain ⟨e, he, hev⟩ := List.exists_of_findSome?_eq_some hv
  split at hev
  · rename_i hkey
    cases hev
    exact h e he (hkey ▸ hname)
  · cases hev

theorem Context.Quiet.value {ctx : Context} (h : ctx.Quiet) {name : String}
    (hname : name ∉ ["menus", "visible_regions"]) : (Slot.value [name]).Quiet ctx :=
  Slot.quiet_value fun _ hv => h.find? hname hv

theorem Context.Quiet.valueOr {ctx : Context} (h : ctx.Quiet) {name : String}
    (hname : name ∉ ["menus", "visible_regions"]) (fallback : String) :
    (Slot.valueOr [name] fallback).Quiet ctx :=
  Slot.quiet_valueOr fallback fun _ hv => h.find? hname hv

theorem Context.Quiet.cons {ctx : Context} (h : ctx.Quiet) (name s : String) :
    Context.Quiet ((name, .str s) :: ctx) :=
  List.forall_mem_cons.2 ⟨fun _ => isQuiet_str s, h⟩

theorem quiet_accessContext (year : Nat) (registry : Registry) (access : Access) (user : Option User)
    (pageTitle homePath : String) :
    (accessContext year registry access user pageTitle homePath).Quiet := by
  simp [Context.Quiet, accessContext, baseContext]

section Documents

variable {c d : Context}

/-- **The layout** has the same markup around contents with the same markup, if the menus have the same
shape. -/
theorem alike_layout (hc : c.Quiet) (hd : d.Quiet) {items others : List MenuItem}
    (hitems : c.find? ["menus"] = some (.arr (MenuItem.listToJson items)))
    (hothers : d.find? ["menus"] = some (.arr (MenuItem.listToJson others)))
    (hshape : MenuShape.ofItems items = MenuShape.ofItems others) {content : Template}
    (hcontent : content.Alike c d) : (layout content).Alike c d := by
  have hmenu : List.Forall₂ (fun v w =>
      (Template.choose (.holds ["menu", "children"]) menuGroup (menuLink "menu" "        ")
        (.text (joinWith "\n" ["", "        "]) .done)).Alike (("menu", v) :: c) (("menu", w) :: d))
      (MenuItem.listToJson items) (MenuItem.listToJson others) :=
    MenuShape.forall₂_listToJson hshape fun _ _ hitem => alike_menuEntry hitem trivial
  simp [layout, Template.ofParts, Template.lines, Template.put, Template.alike_forEach hitems hothers,
    hmenu, hc.value, hd.value, hc.valueOr, hd.valueOr, hcontent]

/-- A panel is there in both contexts or in neither. -/
theorem alike_panel (h : c.find? ["visible_regions"] = d.find? ["visible_regions"]) {region : String}
    {content : List String} {rest : Template} :
    (panel region content rest).Alike c d ↔ rest.Alike c d := by
  simp [panel, Template.ofParts, Template.lines, Template.Alike, Test.check, h]

theorem alike_dashboardContent (h : c.find? ["visible_regions"] = d.find? ["visible_regions"]) :
    dashboardContent.Alike c d := by
  simp only [dashboardContent, Template.ofParts, Template.lines, List.foldr, Template.alike_text,
    alike_panel h, Template.alike_done]

theorem alike_pageContent (hc : c.Quiet) (hd : d.Quiet) : pageContent.Alike c d := by
  simp [pageContent, Template.ofParts, Template.lines, Template.put, hc.value, hd.value]

theorem alike_loginPage (hc : c.Quiet) (hd : d.Quiet)
    (herror : (c.find? ["error"]).any isTruthy = (d.find? ["error"]).any isTruthy) :
    loginPage.Alike c d := by
  simp [loginPage, Template.ofParts, Template.lines, Template.put, Template.Alike, Test.check, herror,
    hc.value, hd.value, hc.valueOr, hd.valueOr]

end Documents

end ResidencePortal.Html
