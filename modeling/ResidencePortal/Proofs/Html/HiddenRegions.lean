import ResidencePortal.Proofs.Html.RegionMark
import ResidencePortal.Proofs.Menu.Hiding

/-!
# Hidden regions in documents

The regions that are hidden from a role leave the documents in two ways: the menu is shown without them,
and a panel is written only if its region is visible. Nothing else names a region, and no text from outside
can: it is written without the quotes that the attribute needs. So a document for a role does not name a
hidden region anywhere.

**Results.**
* `Template.harmless_ofParts`: parts that write harmless texts make a template that does.
* `harmless_layout`: the layout around a harmless content, with a menu without the hidden regions.
* `harmless_dashboardContent`, `harmless_pageContent`: the contents of the dashboard and of pages.
* `choices_dashboardContent`: the parts of the dashboard that depend on a test are its panels.
* `documents_without_hidden_regions`: no document for a role names a region that is hidden from it, and the
  dashboard has every panel of a region that is not.
-/

namespace ResidencePortal.Html

open Text

/-! ## Lines -/

theorem joinWith_cons_cons (sep l next : String) (rest : List String) :
    joinWith sep (l :: next :: rest) = l ++ sep ++ joinWith sep (next :: rest) := rfl

theorem joinWith_concat (sep last : String) {ls : List String} (h : ls ≠ []) :
    joinWith sep (ls ++ [last]) = joinWith sep ls ++ sep ++ last := by
  induction ls with
  | nil => exact absurd rfl h
  | cons l rest ih =>
    cases rest with
    | nil => rfl
    | cons next rest =>
      have hrest := ih (List.cons_ne_nil _ _)
      simp only [List.cons_append, joinWith_cons_cons] at hrest ⊢
      rw [hrest]
      simp only [String.append_assoc]

/-- Lines between two others stand in their text. -/
theorem contains_joinWith_between (first last : String) {ls : List String} (h : ls ≠ []) :
    contains (joinWith "\n" ([first] ++ ls ++ [last])) (joinWith "\n" ls) = true := by
  obtain ⟨l, rest, rfl⟩ := List.exists_cons_of_ne_nil h
  have hlines : joinWith "\n" ([first] ++ (l :: rest) ++ [last]) =
      (first ++ "\n") ++ joinWith "\n" (l :: rest) ++ ("\n" ++ last) := by
    rw [joinWith_concat _ _ (by simp), List.cons_append, List.nil_append, joinWith_cons_cons]
    simp only [String.append_assoc]
  rw [hlines]
  exact contains_between (contains_iff.2 (List.infix_refl _)) _ _

/-! ## Parts of templates -/

namespace Template

/-- The template writes harmless texts. -/
def Harmless (regions : List Region) (ctx : Context) (t : Template) : Prop :=
  ∀ a, t.eval ctx = some a → Html.Harmless regions a

/-- The part writes a harmless text in front of what follows it. -/
def HarmlessPart (regions : List Region) (ctx : Context) (part : Template → Template) : Prop :=
  ∀ rest : Template, rest.Harmless regions ctx → (part rest).Harmless regions ctx

variable {regions : List Region} {ctx : Context}

theorem harmless_done : done.Harmless regions ctx := by
  intro a ha
  cases ha
  exact harmless_empty

theorem harmless_ofParts {parts : List (Template → Template)}
    (h : ∀ part ∈ parts, HarmlessPart regions ctx part) : (ofParts parts).Harmless regions ctx := by
  induction parts with
  | nil => exact harmless_done
  | cons part parts ih =>
    exact h part List.mem_cons_self _ (ih fun p hp => h p (List.mem_cons_of_mem _ hp))

theorem harmless_text {s : String} (hs : Html.Harmless regions s) :
    HarmlessPart regions ctx (text s) := by
  intro rest hrest a ha
  obtain ⟨more, hmore, rfl⟩ := eval_text_eq_some ha
  exact harmless_append hs (hrest more hmore)

theorem harmless_slot {s : Slot} (hs : s.Quiet ctx) : HarmlessPart regions ctx (slot s) := by
  intro rest hrest a ha
  obtain ⟨here, more, hhere, hmore, rfl⟩ := eval_slot_eq_some ha
  exact harmless_append (harmless_of_markup_eq_nil (hs here hhere)) (hrest more hmore)

theorem harmless_choose {test : Test} {yes no : Template}
    (h : ∀ chosen, test.check ctx = some chosen → (if chosen then yes else no).Harmless regions ctx) :
    HarmlessPart regions ctx (choose test yes no) := by
  intro rest hrest a ha
  obtain ⟨chosen, here, more, hchosen, hhere, hmore, rfl⟩ := eval_choose_eq_some ha
  exact harmless_append (h chosen hchosen here hhere) (hrest more hmore)

theorem harmless_joinWith {sep : String} (hsep : Html.Harmless regions sep) {ls : List String}
    (h : ∀ l ∈ ls, Html.Harmless regions l) : Html.Harmless regions (joinWith sep ls) := by
  induction ls with
  | nil => exact harmless_empty
  | cons l ls ih =>
    obtain ⟨hl, hls⟩ := List.forall_mem_cons.1 h
    cases ls with
    | nil => exact hl
    | cons next rest => exact harmless_append (harmless_append hl hsep) (ih hls)

theorem harmless_joinAll {texts : List (Option String)}
    (h : ∀ s, some s ∈ texts → Html.Harmless regions s) {a : String} (ha : joinAll texts = some a) :
    Html.Harmless regions a := by
  induction texts generalizing a with
  | nil =>
    cases ha
    exact harmless_empty
  | cons text texts ih =>
    obtain ⟨s, rfl, ha⟩ := Option.bind_eq_some_iff.1 ha
    obtain ⟨more, hmore, ha⟩ := Option.bind_eq_some_iff.1 ha
    cases ha
    exact harmless_append (h s List.mem_cons_self)
      (ih (fun t ht => h t (List.mem_cons_of_mem _ ht)) hmore)

theorem harmless_forEach {name : String} {list : List String} {body : Template} {items : List Json}
    (hitems : ctx.find? list = some (.arr items))
    (hbody : ∀ item ∈ items, body.Harmless regions ((name, item) :: ctx)) :
    HarmlessPart regions ctx (forEach name list body) := by
  intro rest hrest a ha
  obtain ⟨found, here, more, hfound, hhere, hmore, rfl⟩ := eval_forEach_eq_some ha
  rw [hitems] at hfound
  cases hfound
  refine harmless_append (harmless_joinAll (fun s hs => ?_) hhere) (hrest more hmore)
  obtain ⟨item, hitem, heval⟩ := List.mem_map.1 hs
  exact hbody item hitem s heval

theorem harmless_lines {ls : List String} (h : ∀ l ∈ ls, Html.Harmless regions l) :
    HarmlessPart regions ctx (lines ls) :=
  harmless_text (harmless_joinWith (harmless_of_markup_eq_nil (by decide)) h)

/-- Literal lines that do not open the attribute. -/
theorem harmless_literals (css : List (List Char)) (h : css.all (opensOnly [] []) = true) :
    HarmlessPart regions ctx (lines (css.map String.ofList)) := by
  refine harmless_lines fun l hl => ?_
  obtain ⟨cs, hcs, rfl⟩ := List.mem_map.1 hl
  exact harmless_literal (List.all_eq_true.1 h cs hcs)

theorem harmless_append_part {t : Template} (h : t.Harmless regions ctx) :
    HarmlessPart regions ctx t.append := by
  intro rest hrest a ha
  rw [eval_append] at ha
  obtain ⟨here, hhere, ha⟩ := Option.bind_eq_some_iff.1 ha
  obtain ⟨more, hmore, rfl⟩ := Option.map_eq_some_iff.1 ha
  exact harmless_append (h here hhere) (hrest more hmore)

end Template

/-! ## Menus -/

section Menus

variable {regions : List Region} {ctx : Context}

theorem escape_id (r : Region) : escape r.id = r.id := by cases r <;> decide

/-- The attribute of one region names no other. -/
theorem harmless_mark {r : Region} (h : r ∉ regions) : Harmless regions (" " ++ r.mark) := by
  have hopens : ∀ r ∈ Region.all, opensOnly [r] [] (' ' :: (markName ++ '"' :: markValue r)) = true := by
    decide
  refine harmless_of_opensOnly [r] (by simpa using h) ?_
  rw [String.toList_append, toList_mark]
  exact hopens r (Region.mem_all r)

/-- The attribute of an item that is not hidden names no hidden region. -/
theorem harmless_regionMark {item : MenuItem} (h : item.entry.isHidden regions = false)
    (name : String) :
    Template.HarmlessPart regions ((name, item.toJson) :: ctx) (regionMark name) := by
  refine Template.harmless_choose fun chosen hchosen => ?_
  cases chosen with
  | false => exact Template.harmless_done
  | true =>
    have hfind : Context.find? ((name, item.toJson) :: ctx) [name, "region"] =
        some (Json.ofText? (item.entry.region.map Region.id)) :=
      Context.find?_cons_self (get?_region item)
    cases hregion : item.entry.region with
    | none => simp [Test.check, hfind, hregion, Json.ofText?, isTruthy] at hchosen
    | some r =>
      have hr : r ∉ regions := MenuEntry.isHidden_eq_false.1 h r hregion
      intro a ha
      obtain ⟨_, hvalue, rfl⟩ := Template.eval_text_eq_some ha
      obtain ⟨value, _, hfill, hquote, rfl⟩ := Template.eval_slot_eq_some hvalue
      obtain ⟨_, hdone, rfl⟩ := Template.eval_text_eq_some hquote
      cases hdone
      have hvalue : value = r.id := by
        simpa [Slot.fill, hfind, hregion, Json.ofText?, slotText, escape_id] using hfill.symm
      have hmark : " data-region=\"" ++ (value ++ ("\"" ++ "")) = " " ++ r.mark := by
        simp [hvalue, Region.mark, ← String.append_assoc]
      rw [hmark]
      exact harmless_mark hr

theorem harmless_menuLink {item : MenuItem} (h : item.entry.isHidden regions = false) (name : String)
    {indent : String} (hindent : markup indent = []) :
    (menuLink name indent).Harmless regions ((name, item.toJson) :: ctx) := by
  obtain ⟨htitle, hpath⟩ := get?_toJson item
  have hbefore : Harmless regions indent := harmless_of_markup_eq_nil hindent
  have hopen : Harmless regions (indent ++ "<li class=\"nav-item\"") :=
    harmless_append hbefore (harmless_literal (by decide))
  have hlink : Harmless regions (indent ++ "    <a class=\"nav-link\" href=\"") :=
    harmless_append hbefore (harmless_literal (by decide))
  have hend : Harmless regions (indent ++ "</li>") :=
    harmless_append hbefore (harmless_literal (by decide))
  have hgreater : Harmless regions ">" := harmless_literal (by decide)
  have hanchor : Harmless regions "</a>" := harmless_literal (by decide)
  refine Template.harmless_ofParts ?_
  simp only [List.mem_cons, List.not_mem_nil, or_false, forall_eq_or_imp, forall_eq]
  exact ⟨Template.harmless_lines (by simp [harmless_empty, hopen]),
    harmless_regionMark h name,
    Template.harmless_lines (by simp [hgreater, hlink]),
    Template.harmless_slot (quiet_member ctx hpath (isQuiet_str _)),
    Template.harmless_text (harmless_literal (by decide)),
    Template.harmless_slot (quiet_member ctx htitle (isQuiet_str _)),
    Template.harmless_lines (by simp [hanchor, hbefore, hend])⟩

theorem harmless_menuGroup {item : MenuItem}
    (h : ∀ child ∈ below item, child.entry.isHidden regions = false)
    (hitems : childrenOf item = .arr (MenuItem.listToJson (below item))) :
    menuGroup.Harmless regions (("menu", item.toJson) :: ctx) := by
  have hchildren : Context.find? (("menu", item.toJson) :: ctx) ["menu", "children"] =
      some (.arr (MenuItem.listToJson (below item))) := by
    rw [Context.find?_cons_self (get?_children item), hitems]
  have hlinks : ∀ v ∈ MenuItem.listToJson (below item), (menuLink "child" "                ").Harmless
      regions (("child", v) :: ("menu", item.toJson) :: ctx) := by
    intro v hv
    obtain ⟨child, hchild, rfl⟩ := mem_listToJson hv
    exact harmless_menuLink (h child hchild) "child" (by decide)
  refine Template.harmless_ofParts ?_
  simp only [List.mem_cons, List.not_mem_nil, or_false, forall_eq_or_imp, forall_eq]
  exact ⟨Template.harmless_literals [_, _, _] (by decide),
    Template.harmless_slot (quiet_member ctx (get?_toJson item).1 (isQuiet_str _)),
    Template.harmless_literals [_, _, _] (by decide),
    Template.harmless_forEach hchildren hlinks,
    Template.harmless_literals [_, _, _, _] (by decide)⟩

/-- An item of the menu is written as a group or as a link. -/
theorem harmless_menuEntry {item : MenuItem} (hitem : item.entry.isHidden regions = false)
    (h : ∀ child ∈ below item, child.entry.isHidden regions = false) :
    Template.HarmlessPart regions (("menu", item.toJson) :: ctx)
      (.choose (.holds ["menu", "children"]) menuGroup (menuLink "menu" "        ")) := by
  refine Template.harmless_choose fun chosen hchosen => ?_
  cases chosen with
  | false => exact harmless_menuLink hitem "menu" (by decide)
  | true =>
    cases item with
    | leaf entry =>
      simp [Test.check, Context.find?_cons_self (get?_children _), childrenOf, isTruthy] at hchosen
    | node entry children => exact harmless_menuGroup h rfl

end Menus

/-! ## The layout -/

section Documents

variable {regions : List Region} {ctx : Context}

/-- **The layout** is harmless around a harmless content if its menu has no hidden item. -/
theorem harmless_layout (hquiet : ctx.Quiet) {menu : List MenuItem}
    (hmenu : ctx.find? ["menus"] = some (.arr (MenuItem.listToJson menu)))
    (hshown : ∀ item ∈ menu, item.entry.isHidden regions = false ∧
      ∀ child ∈ below item, child.entry.isHidden regions = false)
    {content : Template} (hcontent : content.Harmless regions ctx) :
    (layout content).Harmless regions ctx := by
  have hentries : ∀ v ∈ MenuItem.listToJson menu, (Template.ofParts
      [Template.lines ["", "        "],
        .choose (.holds ["menu", "children"]) menuGroup (menuLink "menu" "        "),
        Template.lines ["", "        "]]).Harmless regions (("menu", v) :: ctx) := by
    intro v hv
    obtain ⟨item, hitem, rfl⟩ := mem_listToJson hv
    obtain ⟨hentry, hbelow⟩ := hshown item hitem
    refine Template.harmless_ofParts ?_
    simp only [List.mem_cons, List.not_mem_nil, or_false, forall_eq_or_imp, forall_eq]
    exact ⟨Template.harmless_literals [_, _] (by decide), harmless_menuEntry hentry hbelow,
      Template.harmless_literals [_, _] (by decide)⟩
  refine Template.harmless_ofParts ?_
  simp only [List.mem_cons, List.not_mem_nil, or_false, forall_eq_or_imp, forall_eq]
  exact ⟨Template.harmless_literals [_, _, _, _, _] (by decide),
    Template.harmless_slot (hquiet.valueOr (by decide) _),
    Template.harmless_text (harmless_literal (by decide)),
    Template.harmless_slot (hquiet.value (by decide)),
    Template.harmless_literals [_, _, _] (by decide),
    Template.harmless_slot (hquiet.valueOr (by decide) _),
    Template.harmless_literals [_, _, _, _] (by decide),
    Template.harmless_slot (hquiet.value (by decide)),
    Template.harmless_literals [_, _] (by decide),
    Template.harmless_forEach hmenu hentries,
    Template.harmless_literals [_, _, _, _, _] (by decide),
    Template.harmless_slot (hquiet.value (by decide)),
    Template.harmless_literals [_, _] (by decide),
    Template.harmless_slot (hquiet.value (by decide)),
    Template.harmless_literals [_, _, _, _, _] (by decide),
    Template.harmless_append_part hcontent,
    Template.harmless_literals [_, _, _] (by decide),
    Template.harmless_slot (hquiet.value (by decide)),
    Template.harmless_text (harmless_literal (by decide)),
    Template.harmless_slot (hquiet.value (by decide)),
    Template.harmless_text (harmless_literal (by decide)),
    Template.harmless_slot (hquiet.value (by decide)),
    Template.harmless_literals [_, _, _, _] (by decide)⟩

theorem harmless_pageContent (hquiet : ctx.Quiet) : pageContent.Harmless regions ctx := by
  refine Template.harmless_ofParts ?_
  simp only [List.mem_cons, List.not_mem_nil, or_false, forall_eq_or_imp, forall_eq]
  exact ⟨Template.harmless_literals [_, _] (by decide),
    Template.harmless_slot (hquiet.value (by decide)),
    Template.harmless_literals [_, _] (by decide),
    Template.harmless_slot (hquiet.value (by decide)),
    Template.harmless_text (harmless_literal (by decide)),
    Template.harmless_slot (hquiet.value (by decide)),
    Template.harmless_literals [_, _] (by decide)⟩

/-! ## The panels of the dashboard -/

/-- The panels of the dashboard: the region of each, and its lines. -/
def dashboardPanels : List (Region × List String) :=
  [(.financialDashboardWidgets,
      ["    <a id=\"btnQuickCreateFee\" class=\"btn\" href=\"/khoan-thu\" " ++
        "data-region=\"financial-dashboard-widgets\">Tạo khoản thu mới</a>"]),
    (.residentMenu,
      ["    <a id=\"btnQuickExportResidents\" class=\"btn\" href=\"/danh-sach-dan-cu\" " ++
        "data-region=\"resident-menu\">Xuất danh sách cư dân</a>"]),
    (.financialCharts,
      ["    <div class=\"card\" id=\"revenueChart\" data-region=\"financial-charts\">" ++
          "<div class=\"card-header\">Doanh thu</div></div>",
        "    <div class=\"card\" id=\"debtChart\" data-region=\"financial-charts\">" ++
          "<div class=\"card-header\">Công nợ</div></div>"]),
    (.demographicCharts,
      ["    <div class=\"card\" id=\"demographicsChart\" data-region=\"demographic-charts\">" ++
        "<div class=\"card-header\">Nhân khẩu</div></div>"])]

theorem dashboardPanels_ne_nil {p : Region × List String} (hp : p ∈ dashboardPanels) : p.2 ≠ [] := by
  revert p
  simp only [dashboardPanels, List.mem_cons, List.not_mem_nil, or_false, forall_eq_or_imp, forall_eq,
    ne_eq, reduceCtorEq, not_false_eq_true, and_self]

/-- A panel names its own region only. -/
theorem harmless_panelLines {p : Region × List String} (hp : p ∈ dashboardPanels) (hr : p.1 ∉ regions) :
    ∀ l ∈ p.2, Harmless regions l := by
  revert p
  simp only [dashboardPanels, List.mem_cons, List.not_mem_nil, or_false, forall_eq_or_imp, forall_eq]
  refine ⟨fun hr => ?_, fun hr => ?_, fun hr => ⟨?_, ?_⟩, fun hr => ?_⟩
  -- Each line is made of two literals.
  all_goals
    exact harmless_append (harmless_literal_of_region hr (by decide))
      (harmless_literal_of_region hr (by decide))

/-- A panel is written only if its region is visible. -/
theorem harmless_panel
    (hvisible : ctx.find? ["visible_regions"] =
      some (.arr ((Region.visible regions).map fun r => .str r.id)))
    {r : Region} {content : List String} (h : r ∉ regions → ∀ l ∈ content, Harmless regions l) :
    Template.HarmlessPart regions ctx (panel r.id content) := by
  refine Template.harmless_choose fun chosen hchosen => ?_
  cases chosen with
  | false => exact Template.harmless_done
  | true =>
    have hr : r ∉ regions := by
      have hmem : ∃ s : Region, s ∉ regions ∧ s.id = r.id := by
        simpa [Test.check, hvisible, Json.str?] using hchosen
      obtain ⟨s, hs, hid⟩ := hmem
      have hsame : some s = some r := by rw [← Region.ofId?_id, ← Region.ofId?_id, hid]
      exact Option.some_inj.1 hsame ▸ hs
    have hempty : Harmless regions "    " := harmless_literal (by decide)
    refine Template.harmless_lines ?_ _ Template.harmless_done
    simpa [harmless_empty, hempty, or_imp, forall_and] using h hr

theorem harmless_dashboardContent
    (hvisible : ctx.find? ["visible_regions"] =
      some (.arr ((Region.visible regions).map fun r => .str r.id))) :
    dashboardContent.Harmless regions ctx := by
  have hpanels : ∀ p ∈ dashboardPanels, Template.HarmlessPart regions ctx (panel p.1.id p.2) :=
    fun p hp => harmless_panel hvisible (harmless_panelLines hp)
  simp only [dashboardPanels, List.mem_cons, List.not_mem_nil, or_false, forall_eq_or_imp,
    forall_eq] at hpanels
  obtain ⟨hwidgets, hresidents, hmoney, hpeople⟩ := hpanels
  refine Template.harmless_ofParts ?_
  simp only [List.mem_cons, List.not_mem_nil, or_false, forall_eq_or_imp, forall_eq]
  exact ⟨Template.harmless_literals [_, _, _, _] (by decide), hwidgets,
    Template.harmless_literals [_, _] (by decide), hresidents,
    Template.harmless_literals [_, _, _, _] (by decide), hmoney,
    Template.harmless_literals [_, _] (by decide), hpeople,
    Template.harmless_literals [_, _, _] (by decide)⟩

end Documents

/-! ## Choices -/

namespace Template

/-- The tests on the top level of a template, each with what is written if it holds. -/
def choices : Template → List (Test × Template)
  | done => []
  | text _ rest => rest.choices
  | slot _ rest => rest.choices
  | choose test yes _ rest => (test, yes) :: rest.choices
  | forEach _ _ _ rest => rest.choices

theorem tail_of_mem_choices {t yes : Template} {test : Test} (h : (test, yes) ∈ t.choices) :
    ∃ no rest, Tail t (choose test yes no rest) := by
  induction t with
  | done => cases h
  | text s rest ih | slot s rest ih | forEach name list body rest _ ih =>
    obtain ⟨no, more, htail⟩ := ih h
    exact ⟨no, more, .step rfl htail⟩
  | choose other yes' no rest _ _ ih =>
    rcases List.mem_cons.1 h with hfirst | hrest
    · cases hfirst
      exact ⟨no, rest, .refl _⟩
    · obtain ⟨no, more, htail⟩ := ih hrest
      exact ⟨no, more, .step rfl htail⟩

/-- What is written if a test holds stands in the text if it does. -/
theorem eval_of_mem_choices {ctx : Context} {t yes : Template} {test : Test}
    (h : (test, yes) ∈ t.choices) (htest : test.check ctx = some true) {a : String}
    (ha : t.eval ctx = some a) :
    ∃ front shown back, yes.eval ctx = some shown ∧ a = front ++ shown ++ back := by
  obtain ⟨no, rest, htail⟩ := tail_of_mem_choices h
  obtain ⟨front, back, hback, rfl⟩ := eval_tail htail ha
  obtain ⟨chosen, shown, more, hchosen, hshown, -, rfl⟩ := eval_choose_eq_some hback
  rw [htest, Option.some_inj] at hchosen
  subst hchosen
  exact ⟨front, shown, more, hshown, by rw [String.append_assoc]⟩

end Template

/-- What the dashboard shows by a test are its panels, each if its region is visible. -/
theorem choices_dashboardContent :
    dashboardContent.choices = dashboardPanels.map fun p =>
      (.among p.1.id ["visible_regions"],
        Template.ofParts [Template.lines ([""] ++ p.2 ++ ["    "])]) := rfl

/-! ## Documents for a role -/

/-- The context shows what a role sees: its menu and its regions. -/
structure Context.ForRole (ctx : Context) (registry : Registry) (role : Role) : Prop where
  layout : ctx.ForLayout
  quiet : ctx.Quiet
  menu : ctx.find? ["menus"] = some (.arr (MenuItem.listToJson (registry.visibleMenu role)))
  regions : ctx.find? ["visible_regions"] =
    some (.arr ((Region.visible (Policy.hiddenRegions role)).map fun r => .str r.id))

theorem forRole_accessContext (year : Nat) (registry : Registry) (role : Role) (user : Option User)
    (pageTitle homePath : String) :
    (accessContext year registry (.ofRole role) user pageTitle homePath).ForRole registry role where
  layout := forLayout_accessContext year registry (.ofRole role) user pageTitle homePath
  quiet := quiet_accessContext year registry (.ofRole role) user pageTitle homePath
  menu := find?_menus_accessContext year registry (.ofRole role) user pageTitle homePath
  regions := find?_visible_regions_accessContext year registry (.ofRole role) user pageTitle homePath

/-- Other texts make no difference to what a role sees. -/
theorem Context.ForRole.cons {ctx : Context} {registry : Registry} {role : Role}
    (h : ctx.ForRole registry role) {name : String} (hname : name ∈ ["api_base_url", "page_id"])
    (s : String) : Context.ForRole ((name, .str s) :: ctx) registry role := by
  simp only [List.mem_cons, List.not_mem_nil, or_false] at hname
  constructor
  · rcases hname with rfl | rfl <;> exact h.layout.cons (by decide) _
  · exact h.quiet.cons name s
  · rw [find?_cons_of_ne (by rcases hname with rfl | rfl <;> decide)]
    exact h.menu
  · rw [find?_cons_of_ne (by rcases hname with rfl | rfl <;> decide)]
    exact h.regions

section ForRole

variable {ctx : Context} {registry : Registry} {role : Role}

/-- No item that a role sees is in a region hidden from it, and none below it. -/
theorem visibleMenu_not_isHidden {item : MenuItem} (h : item ∈ registry.visibleMenu role) :
    item.entry.isHidden (Policy.hiddenRegions role) = false ∧
      ∀ child ∈ below item, child.entry.isHidden (Policy.hiddenRegions role) = false := by
  have hsettled : Menu.Settled (Policy.hiddenRegions role) (registry.visibleMenu role) :=
    Menu.settled_visible _ _
  have hshown : ∀ i ∈ Menu.everyItem (registry.visibleMenu role),
      i.entry.isHidden (Policy.hiddenRegions role) = false :=
    fun i hi => MenuEntry.isHidden_eq_false.2 (hsettled.shown i hi)
  refine ⟨hshown item (Menu.mem_everyItem h), fun child hchild => ?_⟩
  cases item with
  | leaf entry => cases hchild
  | node entry children => exact hshown child (Menu.mem_everyItem_of_node h hchild)

/-- The layout for a role does not name the regions that are hidden from it. -/
theorem harmless_layout_of_role (h : ctx.ForRole registry role) {content : Template}
    (hcontent : content.Harmless (Policy.hiddenRegions role) ctx) :
    (layout content).Harmless (Policy.hiddenRegions role) ctx :=
  harmless_layout h.quiet h.menu (fun _ hitem => visibleMenu_not_isHidden hitem) hcontent

theorem dashboard_of_role (h : ctx.ForRole registry role) (year : Nat) :
    ∃ body, render year .dashboard ctx = ⟨200, body⟩ ∧
      (∀ r ∈ Policy.hiddenRegions role, contains body r.mark = false) ∧
      ∀ p ∈ dashboardPanels, p.1 ∉ Policy.hiddenRegions role →
        contains body (joinWith "\n" p.2) = true := by
  obtain ⟨body, hbody⟩ := Option.isSome_iff_exists.1
    (isSome_eval_layout h.layout (isSome_eval_dashboardContent h.regions))
  have hharmless := harmless_layout_of_role h (harmless_dashboardContent h.regions) body hbody
  refine ⟨body, by rw [render, Document.template, hbody], fun r hr => hharmless.contains_mark hr,
    fun p hp hvisible => ?_⟩
  obtain ⟨inner, front, back, hinner, rfl⟩ := eval_layout hbody
  have hchoice : (Test.among p.1.id ["visible_regions"],
      Template.ofParts [Template.lines ([""] ++ p.2 ++ ["    "])]) ∈ dashboardContent.choices := by
    rw [choices_dashboardContent]
    exact List.mem_map.2 ⟨p, hp, rfl⟩
  have hcheck : (Test.among p.1.id ["visible_regions"]).check ctx = some true := by
    simp only [Test.check, h.regions, List.any_map, Option.some_inj, List.any_eq_true]
    exact ⟨p.1, Region.mem_visible.2 hvisible, by simp [Json.str?]⟩
  obtain ⟨before, shown, after, hshown, rfl⟩ := Template.eval_of_mem_choices hchoice hcheck hinner
  obtain ⟨rest, hrest, rfl⟩ := Template.eval_text_eq_some hshown
  cases hrest
  rw [String.append_empty]
  have hlines := contains_joinWith_between "" "    " (dashboardPanels_ne_nil hp)
  exact contains_between (contains_between hlines before after) front back

theorem page_of_role (h : ctx.ForRole registry role)
    (hnames : ∀ name ∈ ["page_title", "page_id", "api_base_url"], (ctx.find? [name]).isSome = true)
    (year : Nat) :
    ∃ body, render year .page ctx = ⟨200, body⟩ ∧
      ∀ r ∈ Policy.hiddenRegions role, contains body r.mark = false := by
  obtain ⟨body, hbody⟩ := Option.isSome_iff_exists.1
    (isSome_eval_layout h.layout (isSome_eval_pageContent hnames))
  have hharmless := harmless_layout_of_role h (harmless_pageContent h.quiet) body hbody
  exact ⟨body, by rw [render, Document.template, hbody], fun r hr => hharmless.contains_mark hr⟩

end ForRole

/-- **Hidden regions.** The dashboard and the pages that are written for a role, whatever pages are
registered, whoever the visitor is and whatever the titles and paths are, name no region that is hidden
from the role: neither in the menu, nor in a panel, nor in any text from outside. And the dashboard has
every panel whose region is not hidden. -/
theorem documents_without_hidden_regions (year : Nat) (registry : Registry) (role : Role)
    (user : Option User) (pageTitle homePath apiBaseUrl pageId : String) :
    let visitor := accessContext year registry (.ofRole role) user pageTitle homePath
    let shared : Context := ("api_base_url", .str apiBaseUrl) :: visitor
    (∀ ctx ∈ [visitor, shared], ∃ body, render year .dashboard ctx = ⟨200, body⟩ ∧
      (∀ r ∈ Policy.hiddenRegions role, contains body r.mark = false) ∧
      ∀ p ∈ dashboardPanels, p.1 ∉ Policy.hiddenRegions role →
        contains body (joinWith "\n" p.2) = true) ∧
    ∃ body, render year .page (("page_id", .str pageId) :: shared) = ⟨200, body⟩ ∧
      ∀ r ∈ Policy.hiddenRegions role, contains body r.mark = false := by
  intro visitor shared
  have hvisitor : visitor.ForRole registry role := forRole_accessContext _ _ _ _ _ _
  have hshared : shared.ForRole registry role := hvisitor.cons (by simp) apiBaseUrl
  refine ⟨fun ctx hctx => ?_, page_of_role (hshared.cons (by simp) pageId) ?_ year⟩
  · simp only [List.mem_cons, List.not_mem_nil, or_false] at hctx
    rcases hctx with rfl | rfl
    · exact dashboard_of_role hvisitor year
    · exact dashboard_of_role hshared year
  · simp [shared, visitor, accessContext, Context.find?, member?]

/-- A page about fees that is open to managers, with the attribute of its region for a title and a path. -/
def feesPage : Page :=
  { Page.grouped "khoan-thu" (Region.mark .feeMenu) "Thu phí" .feeMenu "money-bill" 20 with
    path := Region.mark .feeMenu, allowed := .ofList [.management] }

/-- A manager may open the page and is called like the attribute; still nothing names the region. The chart
about the residents is there. -/
theorem fees_not_named_for_managers :
    let mark := Region.mark .feeMenu
    let visitor := accessContext 2025 ⟨[feesPage]⟩ (.ofRole .management)
      (some { User.blank with fullName := some mark }) mark mark
    Region.feeMenu ∈ Policy.hiddenRegions .management ∧
    (∃ body, render 2025 .dashboard visitor = ⟨200, body⟩ ∧ contains body mark = false ∧
      contains body ("    <div class=\"card\" id=\"demographicsChart\" data-region=\"demographic-charts\">" ++
        "<div class=\"card-header\">Nhân khẩu</div></div>") = true) ∧
    ∃ body, render 2025 .page (("page_id", .str mark) :: ("api_base_url", .str mark) :: visitor) =
      ⟨200, body⟩ ∧ contains body mark = false := by
  intro mark visitor
  have hhidden : Region.feeMenu ∈ Policy.hiddenRegions .management := by decide
  obtain ⟨hdashboard, page, hpage, hpageClear⟩ := documents_without_hidden_regions 2025 ⟨[feesPage]⟩
    .management (some { User.blank with fullName := some mark }) mark mark mark mark
  obtain ⟨dashboard, hrender, hclear, hpanels⟩ := hdashboard visitor List.mem_cons_self
  exact ⟨hhidden, ⟨dashboard, hrender, hclear _ hhidden,
    hpanels (.demographicCharts, [_]) (.tail _ (.tail _ (.tail _ (.head _)))) (by decide)⟩,
    page, hpage, hpageClear _ hhidden⟩

end ResidencePortal.Html
