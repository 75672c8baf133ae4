import InteractiveBook.Proofs.Content.Column
import InteractiveBook.Proofs.Source.Sections

/-!
# The panels of an accordion are its sections

The lines of an accordion are cut before each marker into a lead and sections. The panels are the
sections in order, with their lines verbatim; only the lead is dropped. The accordion that is built
has these panels, each with its title on the panel and on the text in it.
-/

namespace InteractiveBook.Source

/-- A line that opens a panel: it starts with three plus signs after white space. -/
def IsPanelMarker (line : String) : Prop := "+++".toList <+: (Text.trimStart line).toList

instance : DecidablePred IsPanelMarker := fun line =>
  inferInstanceAs (Decidable ("+++".toList <+: (Text.trimStart line).toList))

/-- The title of the panel that a section is: what follows the plus signs, trimmed. -/
def Section.panelTitle (s : Section) : String :=
  let title := Text.trim (String.ofList ((Text.trimStart s.heading).toList.drop 3))
  if title = "" then "Panel" else title

/-- The panel that a section is. -/
def Section.panel (s : Section) : Panel := ⟨s.panelTitle, s.body⟩

/-- The title on a line is that of the panel it opens. -/
theorem panelTitle?_eq (line : String) (body : List String) :
    panelTitle? line =
      if IsPanelMarker line then some (Section.panelTitle ⟨line, body⟩) else none := by
  rw [panelTitle?, Text.dropStart?_eq, apply_ite (Option.map _)]
  rfl

section Panels

variable {line : String}

/-- A marker opens the panel of its section. -/
theorem addPanelLine_marker (h : IsPanelMarker line) (panels : List Panel) (body : List String) :
    addPanelLine panels line = panels ++ [⟨Section.panelTitle ⟨line, body⟩, []⟩] := by
  rw [addPanelLine, panelTitle?_eq line body, if_pos h]

/-- Any other line is added to the last panel. -/
theorem addPanelLine_concat (h : ¬IsPanelMarker line) (panels : List Panel) (p : Panel) :
    addPanelLine (panels ++ [p]) line = panels ++ [p.pushLine line] := by
  rw [addPanelLine, panelTitle?_eq line [], if_neg h, List.getLast?_concat, List.dropLast_concat]

/-- Before the first marker a line is added to no panel. -/
theorem addPanelLine_nil (h : ¬IsPanelMarker line) : addPanelLine [] line = [] := by
  rw [addPanelLine, panelTitle?_eq line [], if_neg h, List.getLast?_nil]

/-- The lines up to the next marker are added to the last panel, and the panels behind them follow. -/
theorem foldl_addPanelLine (panels : List Panel) (title : String) (body ls : List String) :
    ls.foldl addPanelLine (panels ++ [⟨title, body⟩]) =
      panels ++ ⟨title, body ++ (cutAt IsPanelMarker ls).1⟩ ::
        (cutAt IsPanelMarker ls).2.map Section.panel := by
  induction ls generalizing panels title body with
  | nil => rw [cutAt, List.append_nil]; rfl
  | cons line ls ih =>
    rw [List.foldl_cons]
    by_cases hline : IsPanelMarker line
    · rw [addPanelLine_marker hline _ (cutAt IsPanelMarker ls).1, ih, cutAt_opens hline,
        List.append_assoc, List.append_nil, List.nil_append]
      rfl
    · rw [addPanelLine_concat hline, Panel.pushLine, ih, cutAt_plain hline, List.append_assoc]
      rfl

/-- The panels are the sections of the lines. -/
theorem splitPanels_eq (ls : List String) :
    splitPanels ls = (cutAt IsPanelMarker ls).2.map Section.panel := by
  rw [splitPanels]
  induction ls with
  | nil => rfl
  | cons line ls ih =>
    rw [List.foldl_cons]
    by_cases hline : IsPanelMarker line
    · rw [addPanelLine_marker hline _ (cutAt IsPanelMarker ls).1, foldl_addPanelLine,
        cutAt_opens hline]
      rfl
    · rw [addPanelLine_nil hline, ih, cutAt_plain hline]

end Panels

end InteractiveBook.Source

namespace InteractiveBook.Content

open Library Source

/-- An accordion whose library is known is built with its panels. -/
theorem yields_accordion (ctx : BuildContext) (library : LibraryId) (ls : List String) :
    Yields (fun o => ∃ id panels,
      o = .accordion (.new library id "Accordion" .accordion) panels "h2" ∧
        List.Forall₂ (IsPanelOf ctx) (splitPanels ls) panels)
      (buildWith ctx library ⟨.accordion, ls⟩) := by
  refine (forall₂_yields_buildPanels ctx (splitPanels ls)).bind fun panels hpanels => ?_
  exact (yields_true drawId).bind fun id _ => yields_pure ⟨id, panels, rfl, hpanels⟩

/-- The panels of an accordion are the sections into which its lines are cut before each marker,
and with a library for accordions the block is built as an accordion with these panels. -/
theorem accordion_exact (ls : List String) :
    ∃ lead sections,
      (∀ lead' sections', IsCutAt IsPanelMarker ls lead' sections' ↔
        lead' = lead ∧ sections' = sections) ∧
      splitPanels ls = sections.map Section.panel ∧
      ∀ (ctx : BuildContext) (library : LibraryId), ctx.libraries.get .accordion = some library →
        ∃ built, buildBlock? ctx ⟨.accordion, ls⟩ = some built ∧
          Yields (fun o => ∃ id panels,
            o = .accordion (.new library id "Accordion" .accordion) panels "h2" ∧
              List.Forall₂ (fun s => IsPanelOf ctx s.panel) sections panels) built := by
  have hpanels := splitPanels_eq ls
  refine ⟨_, _, isCutAt_cutAt_iff ls, hpanels, fun ctx library hlibrary => ?_⟩
  have hbuilt : buildBlock? ctx ⟨.accordion, ls⟩ =
      some (buildWith ctx library ⟨.accordion, ls⟩) := by
    have hblock : blockLibrary? ctx ⟨.accordion, ls⟩ = some library := hlibrary
    rw [buildBlock?, hblock, Option.map_some]
  refine ⟨_, hbuilt, (yields_accordion ctx library ls).mono fun o ho => ?_⟩
  obtain ⟨id, panels, hshape, hforall⟩ := ho
  rw [hpanels, List.forall₂_map_left_iff] at hforall
  exact ⟨id, panels, hshape, hforall⟩

/-- Lines with two panels, the second one without a title, and a line before them. -/
def panelLines : List String := ["before", "  +++ One", "a", "", "+++", "b"]

/-- The sections of the lines. -/
def panelSections : List Section := [⟨"  +++ One", ["a", ""]⟩, ⟨"+++", ["b"]⟩]

/-- A context with a library for accordions and no other one. -/
def accordionContext : BuildContext :=
  ⟨LibraryTable.empty.insert .accordion (some ⟨"H5P.Accordion", 1, 0⟩), id⟩

/-- The lines become an accordion of the two panels. -/
theorem panelLines_built : IsCutAt IsPanelMarker panelLines ["before"] panelSections ∧
    splitPanels panelLines = [⟨"One", ["a", ""]⟩, ⟨"Panel", ["b"]⟩] ∧
    accordionContext.libraries.get .accordion = some ⟨"H5P.Accordion", 1, 0⟩ ∧
    ∃ built, buildBlock? accordionContext ⟨.accordion, panelLines⟩ = some built ∧
      Yields (fun o => ∃ id panels,
        o = .accordion (.new ⟨"H5P.Accordion", 1, 0⟩ id "Accordion" .accordion) panels "h2" ∧
          List.Forall₂ (fun s => IsPanelOf accordionContext s.panel) panelSections panels)
        built := by
  obtain ⟨lead, sections, hcut, hsplit, hbuilt⟩ := accordion_exact panelLines
  have hsections : IsCutAt IsPanelMarker panelLines ["before"] panelSections :=
    isCutAt_iff.2 (by decide +kernel)
  obtain ⟨rfl, rfl⟩ := (hcut _ _).1 hsections
  have hpanels : panelSections.map Section.panel =
    [⟨"One", ["a", ""]⟩, ⟨"Panel", ["b"]⟩] := by decide +kernel
  have hlibrary : accordionContext.libraries.get .accordion = some ⟨"H5P.Accordion", 1, 0⟩ := by
    decide
  exact ⟨hsections, hsplit.trans hpanels, hlibrary, hbuilt accordionContext _ hlibrary⟩

end InteractiveBook.Content
