import SymbolText.Catalog.Directory
import SymbolText.Proofs.Outcome
import SymbolText.Proofs.PathOrder

/-!
# Discovery finds the files of a locale in the order of paths

Discovery goes through the entries of the root and collects files locale by locale. Looked at
from a locale, its files are a part of everything beneath the root, in the order of paths. It gets
through unless a path is too long to be looked at, and then fails for such a path.

* `CatalogRoot.HasNode`: what is in the root, and beneath its directories.

Results:
* `mem_beneath`, `beneath_increasing`: a listing has what is beneath a place, in strict order.
* `outcome_survey_eq_ok_iff`, `exists_of_outcome_survey_eq_error`: when discovery gets through, and
  how it fails.
* `discover_eq`: what discovery finds and reports when it gets through.
* `filesIn`: the files of a locale, told by their paths alone.
* `flatMap_filesFrom`: those are the files that the entries of the root have, entry by entry.
* `get?_localeFiles`: discovery finds those files for every locale that has some.
-/

namespace SymbolText

theorem Node.isFile_iff {n : Node} : n.isFile = true ↔ ∃ content, n = .file content := by
  cases n <;> simp [Node.isFile]

namespace FileTree

/-! ## Listings -/

theorem after?_eq_some_iff {start steps rest : List String} :
    after? start steps = some rest ↔ steps = start ++ rest := by
  induction start generalizing steps with
  | nil =>
    rw [after?, Option.some_inj, List.nil_append]
  | cons a start ih =>
    cases steps with
    | nil => simp [after?]
    | cons b steps =>
      rw [after?, List.cons_append, List.cons.injEq]
      split
      · rename_i hab
        rw [ih, and_iff_right hab.symm]
      · rename_i hab
        constructor
        · intro h
          cases h
        · intro h
          exact absurd h.1.symm hab

/-- What an entry of a tree is in the listing of a place. -/
def listed? (place : List String) (e : List String × Node) : Option (List String × Node) :=
  match after? place e.1 with
  | none | some [] => none
  | some rest => some (rest, e.2)

theorem listed?_eq_some_iff {place : List String} {e found : List String × Node} :
    listed? place e = some found ↔ found.1 ≠ [] ∧ e = (place ++ found.1, found.2) := by
  obtain ⟨path, n⟩ := e
  obtain ⟨steps, m⟩ := found
  rw [listed?]
  constructor
  · intro h
    split at h
    · cases h
    · cases h
    · rename_i rest hne hafter
      cases h
      exact ⟨hne, congrArg (·, n) (after?_eq_some_iff.1 hafter)⟩
  · rintro ⟨hne, h⟩
    cases h
    have hafter : after? place (place ++ steps) = some steps := after?_eq_some_iff.2 rfl
    cases steps with
    | nil => exact absurd rfl hne
    | cons step more => simp only [hafter]

theorem beneath_eq (t : FileTree) (place : List String) :
    t.beneath place = (t.nodes.entries.filterMap (listed? place)).mergeSort fun a b =>
      Text.leComponents a.1 b.1 := rfl

/-- Everything beneath a place, by the steps from there. -/
theorem mem_beneath {t : FileTree} {place steps : List String} {n : Node} :
    (steps, n) ∈ t.beneath place ↔ steps ≠ [] ∧ (place ++ steps, n) ∈ t.nodes.entries := by
  rw [beneath_eq, List.mem_mergeSort, List.mem_filterMap]
  constructor
  · rintro ⟨e, hmem, h⟩
    obtain ⟨hne, rfl⟩ := listed?_eq_some_iff.1 h
    exact ⟨hne, hmem⟩
  · rintro ⟨hne, hmem⟩
    exact ⟨_, hmem, listed?_eq_some_iff.2 ⟨hne, rfl⟩⟩

/-- A listing is in the order of paths, and has each of them once. -/
theorem beneath_increasing (t : FileTree) (place : List String) :
    (t.beneath place).Pairwise fun a b => Text.Before a.1 b.1 := by
  rw [beneath_eq]
  refine (List.pairwise_mergeSort (fun a b c => Text.leComponents_trans a.1 b.1 c.1)
    (fun a b => Text.leComponents_total a.1 b.1) _).and (List.pairwise_map.1 ?_)
  refine ((List.mergeSort_perm _ _).map Prod.fst).nodup_iff.2 (List.pairwise_map.2 ?_)
  refine List.pairwise_filterMap.2 ((List.pairwise_map.1 t.nodes.nodup).imp ?_)
  intro e e' hne a ha b hb hab
  obtain ⟨-, rfl⟩ := listed?_eq_some_iff.1 ha
  obtain ⟨-, rfl⟩ := listed?_eq_some_iff.1 hb
  exact hne (congrArg (place ++ ·) hab)

/-- A single step as a name. -/
def named? (e : List String × Node) : Option (String × Node) :=
  match e.1 with
  | [name] => some (name, e.2)
  | _ => none

theorem named?_eq_some_iff {e : List String × Node} {found : String × Node} :
    named? e = some found ↔ e = ([found.1], found.2) := by
  obtain ⟨steps, n⟩ := e
  rw [named?]
  constructor
  · intro h
    split at h
    · rename_i name hsteps
      cases h
      exact congrArg (·, n) hsteps
    · cases h
  · intro h
    cases h
    rfl

theorem entries_eq (t : FileTree) (place : List String) :
    t.entries place = (t.beneath place).filterMap named? := rfl

theorem mem_entries {t : FileTree} {place : List String} {name : String} {n : Node} :
    (name, n) ∈ t.entries place ↔ (place ++ [name], n) ∈ t.nodes.entries := by
  rw [entries_eq, List.mem_filterMap]
  constructor
  · rintro ⟨e, hmem, h⟩
    obtain rfl := named?_eq_some_iff.1 h
    exact (mem_beneath.1 hmem).2
  · intro hmem
    exact ⟨_, mem_beneath.2 ⟨List.cons_ne_nil name [], hmem⟩, named?_eq_some_iff.2 rfl⟩

/-- The entries of a directory are in the order of their names. -/
theorem entries_increasing (t : FileTree) (place : List String) :
    (t.entries place).Pairwise fun a b => Text.Before [a.1] [b.1] := by
  rw [entries_eq, List.pairwise_filterMap]
  refine (t.beneath_increasing place).imp ?_
  intro e e' hbefore a ha b hb
  obtain rfl := named?_eq_some_iff.1 ha
  obtain rfl := named?_eq_some_iff.1 hb
  exact hbefore

end FileTree

namespace CatalogRoot

open CatalogDirectory

/-! ## Looking through a root -/

/-- Something in the root, or at any depth beneath a directory of the root. -/
structure HasNode (r : CatalogRoot) (name : String) (below : List String) (n : Node) : Prop where
  node_mem : (r.place ++ name :: below, n) ∈ r.tree.nodes.entries
  directory_of_ne_nil : below ≠ [] → r.tree.nodes.get? (r.place ++ [name]) = some .directory

/-- The files that are reported as no catalogs. -/
def ignored (r : CatalogRoot) : List Path := r.findings.flatMap (·.ignored)

variable {r : CatalogRoot} {name : String} {below : List String} {n : Node} {e : Error}

theorem hasNode_name (hentry : (name, n) ∈ r.tree.entries r.place) : r.HasNode name [] n :=
  ⟨FileTree.mem_entries.1 hentry, fun h => absurd rfl h⟩

theorem hasNode_beneath (hentry : (name, .directory) ∈ r.tree.entries r.place) :
    (below, n) ∈ r.tree.beneath (r.place ++ [name]) ↔ below ≠ [] ∧ r.HasNode name below n := by
  have hget := Dict.get?_eq_some_iff.2 (FileTree.mem_entries.1 hentry)
  rw [FileTree.mem_beneath, List.append_assoc]
  exact and_congr_right fun _ => ⟨fun hmem => ⟨hmem, fun _ => hget⟩, HasNode.node_mem⟩

/-- A path belongs to one node. -/
theorem HasNode.eq (hnode : r.HasNode name below n) {steps : List String} {m : Node}
    (hm : (r.place ++ steps, m) ∈ r.tree.nodes.entries)
    (hpath : r.pathOf name below = ⟨r.root.components ++ steps⟩) :
    steps = name :: below ∧ m = n := by
  have hsteps : name :: below = steps := List.append_cancel_left (Path.mk.inj hpath)
  subst hsteps
  have hn := Dict.get?_eq_some_iff.2 hnode.node_mem
  rw [Dict.get?_eq_some_iff.2 hm] at hn
  exact ⟨rfl, Option.some.inj hn⟩

theorem outcome_inspect_eq_ok_iff {p : Path} :
    (r.inspect p).outcome = .ok () ↔ r.tree.isOverlong p = false := by
  rw [inspect, Logged.outcome_of]
  cases r.tree.isOverlong p <;> simp

theorem outcome_inspect_eq_error_iff {p : Path} :
    (r.inspect p).outcome = .error e ↔ r.tree.isOverlong p = true ∧ e = .pathTooLong p := by
  rw [inspect, Logged.outcome_of]
  cases r.tree.isOverlong p <;> simp [eq_comm]

/-- Reporting a file does not fail. -/
theorem outcome_surveyItem (item : List String × Node) :
    (r.surveyItem name item).outcome = (r.inspect (r.pathOf name item.1)).outcome := by
  rw [surveyItem, Logged.outcome_bind]
  cases (r.inspect (r.pathOf name item.1)).outcome <;> rfl

/-- A directory is looked through if each path beneath it can be looked at. -/
theorem outcome_surveyBeneath_eq_ok_iff :
    (r.surveyBeneath name).outcome = .ok () ↔
      ∀ item ∈ r.tree.beneath (r.place ++ [name]),
        r.tree.isOverlong (r.pathOf name item.1) = false := by
  rw [surveyBeneath, Logged.outcome_then_eq_ok_iff]
  simp only [Logged.outcome_forM_eq_ok_iff, outcome_surveyItem, outcome_inspect_eq_ok_iff]
  exact and_iff_right_of_imp fun hall item hitem => hall item (List.mem_filter.1 hitem).1

theorem exists_of_outcome_surveyBeneath_eq_error
    (h : (r.surveyBeneath name).outcome = .error e) :
    ∃ item ∈ r.tree.beneath (r.place ++ [name]),
      r.tree.isOverlong (r.pathOf name item.1) = true ∧
        e = .pathTooLong (r.pathOf name item.1) := by
  rw [surveyBeneath, Logged.outcome_bind, Outcome.bind_eq_error_iff] at h
  rcases h with hlisting | ⟨_, -, hitems⟩
  · obtain ⟨item, hitem, hfailed⟩ := Logged.exists_of_outcome_forM_eq_error hlisting
    exact ⟨item, (List.mem_filter.1 hitem).1, outcome_inspect_eq_error_iff.1 hfailed⟩
  · obtain ⟨item, hitem, hfailed⟩ := Logged.exists_of_outcome_forM_eq_error hitems
    rw [outcome_surveyItem] at hfailed
    exact ⟨item, hitem, outcome_inspect_eq_error_iff.1 hfailed⟩

/-- An entry of the root is looked through if the paths of all that is there can be looked at. -/
theorem outcome_surveyEntry_eq_ok_iff (hentry : (name, n) ∈ r.tree.entries r.place) :
    (r.surveyEntry (name, n)).outcome = .ok () ↔
      ∀ below m, r.HasNode name below m → r.tree.isOverlong (r.pathOf name below) = false := by
  have hname := hasNode_name hentry
  rw [surveyEntry, Logged.outcome_then_eq_ok_iff, outcome_inspect_eq_ok_iff]
  by_cases hn : n = .directory
  · subst hn
    rw [if_pos rfl, outcome_surveyBeneath_eq_ok_iff]
    constructor
    · rintro ⟨hfirst, hall⟩ below m hnode
      by_cases hbelow : below = []
      · rwa [hbelow]
      · exact hall (below, m) ((hasNode_beneath hentry).2 ⟨hbelow, hnode⟩)
    · intro hall
      exact ⟨hall [] _ hname, fun item hitem => hall _ _ ((hasNode_beneath hentry).1 hitem).2⟩
  · rw [if_neg hn]
    constructor
    · rintro ⟨hfirst, -⟩ below m hnode
      by_cases hbelow : below = []
      · rwa [hbelow]
      · have hget := Dict.get?_eq_some_iff.2 hname.node_mem
        exact absurd (Option.some.inj (hget.symm.trans (hnode.directory_of_ne_nil hbelow))) hn
    · intro hall
      exact ⟨hall [] _ hname, rfl⟩

theorem exists_of_outcome_surveyEntry_eq_error (hentry : (name, n) ∈ r.tree.entries r.place)
    (h : (r.surveyEntry (name, n)).outcome = .error e) :
    ∃ below m, r.HasNode name below m ∧ r.tree.isOverlong (r.pathOf name below) = true ∧
      e = .pathTooLong (r.pathOf name below) := by
  rw [surveyEntry, Logged.outcome_bind, Outcome.bind_eq_error_iff] at h
  rcases h with hfirst | ⟨_, -, hrest⟩
  · exact ⟨[], n, hasNode_name hentry, outcome_inspect_eq_error_iff.1 hfirst⟩
  · split at hrest
    · rename_i hn
      dsimp only at hn
      subst hn
      obtain ⟨⟨below, m⟩, hitem, hfailed⟩ := exists_of_outcome_surveyBeneath_eq_error hrest
      exact ⟨below, m, ((hasNode_beneath hentry).1 hitem).2, hfailed⟩
    · cases hrest

/-- What there is lies beneath an entry of the root, or is one. -/
theorem HasNode.exists_entry (hnode : r.HasNode name below n) :
    ∃ m, (r.place ++ [name], m) ∈ r.tree.nodes.entries := by
  by_cases hbelow : below = []
  · subst hbelow
    exact ⟨n, hnode.node_mem⟩
  · exact ⟨_, Dict.get?_eq_some_iff.1 (hnode.directory_of_ne_nil hbelow)⟩

/-- **Discovery gets through exactly if every path beneath the root can be looked at.** -/
theorem outcome_survey_eq_ok_iff :
    r.survey.outcome = .ok () ↔ ∀ name below n, r.HasNode name below n →
      r.tree.isOverlong (r.pathOf name below) = false := by
  rw [survey, Logged.outcome_forM_eq_ok_iff]
  constructor
  · intro hall name below n hnode
    obtain ⟨m, hm⟩ := hnode.exists_entry
    have hentry := FileTree.mem_entries.2 hm
    exact (outcome_surveyEntry_eq_ok_iff hentry).1 (hall _ hentry) below n hnode
  · rintro hall ⟨name, n⟩ hentry
    exact (outcome_surveyEntry_eq_ok_iff hentry).2 (hall name)

/-- Discovery gets through a tree in which no entry beneath the root has a path that is too long. -/
theorem outcome_survey_of_entries (h : ∀ e ∈ r.tree.nodes.entries,
    ∀ steps ∈ FileTree.after? r.place e.1,
      r.tree.isOverlong ⟨r.root.components ++ steps⟩ = false) : r.survey.outcome = .ok () :=
  outcome_survey_eq_ok_iff.2 fun _ _ _ hnode =>
    h _ hnode.node_mem _ (FileTree.after?_eq_some_iff.2 rfl)

/-- Discovery fails for a path that is too long. -/
theorem exists_of_outcome_survey_eq_error (h : r.survey.outcome = .error e) :
    ∃ name below n, r.HasNode name below n ∧ r.tree.isOverlong (r.pathOf name below) = true ∧
      e = .pathTooLong (r.pathOf name below) := by
  obtain ⟨⟨name, n⟩, hentry, hfailed⟩ := Logged.exists_of_outcome_forM_eq_error h
  obtain ⟨below, m, hnode⟩ := exists_of_outcome_surveyEntry_eq_error hentry hfailed
  exact ⟨name, below, m, hnode⟩

/-! ## What is reported -/

theorem events_surveyItem {item : List String × Node}
    (h : r.tree.isOverlong (r.pathOf name item.1) = false) :
    (r.surveyItem name item).events = r.ignoredEvents
      (if item.2.isFile && !isCatalog r.extension (r.pathOf name item.1) then
        [r.pathOf name item.1] else []) := by
  rw [surveyItem, Logged.events_bind_ok _ (outcome_inspect_eq_ok_iff.2 h)]
  rfl

/-- The files beneath a directory that are no catalogs, item by item. -/
theorem ignored_finding_directory :
    (r.finding name .directory).ignored =
      (r.tree.beneath (r.place ++ [name])).flatMap fun item =>
        if item.2.isFile && !isCatalog r.extension (r.pathOf name item.1) then
          [r.pathOf name item.1] else [] := by
  rw [finding, filesOf]
  induction r.tree.beneath (r.place ++ [name]) with
  | nil => rfl
  | cons item rest ih =>
    dsimp only at ih ⊢
    rw [List.flatMap_cons, ← ih, List.filterMap_cons]
    cases item.2.isFile with
    | false => rfl
    | true =>
      rw [if_pos rfl, Bool.true_and]
      dsimp only
      rw [List.filter_cons]
      cases isCatalog r.extension (r.pathOf name item.1) <;> rfl

/-- Beneath a directory all files are reported that are no catalogs. -/
theorem events_surveyBeneath (h : (r.surveyBeneath name).outcome = .ok ()) :
    (r.surveyBeneath name).events = r.ignoredEvents (r.finding name .directory).ignored := by
  have hall := outcome_surveyBeneath_eq_ok_iff.1 h
  rw [surveyBeneath, Logged.outcome_then_eq_ok_iff] at h
  obtain ⟨hlisting, hitems⟩ := h
  have hlisted : ((r.tree.beneath (r.place ++ [name])).filter (!·.2.isFile)).flatMap
      (fun item => (r.inspect (r.pathOf name item.1)).events) = [] :=
    List.flatMap_eq_nil_iff.2 fun _ _ => rfl
  rw [surveyBeneath, Logged.events_bind_ok _ hlisting, Logged.events_forM hlisting, hlisted,
    List.nil_append, Logged.events_forM hitems, ignored_finding_directory, ignoredEvents,
    List.map_flatMap]
  exact List.flatMap_congr fun item hitem => events_surveyItem (hall item hitem)

theorem events_surveyEntry {e : String × Node} (h : (r.surveyEntry e).outcome = .ok ()) :
    (r.surveyEntry e).events = r.ignoredEvents (r.finding e.1 e.2).ignored := by
  obtain ⟨name, n⟩ := e
  rw [surveyEntry, Logged.outcome_then_eq_ok_iff] at h
  obtain ⟨hfirst, hrest⟩ := h
  have hnone : (r.inspect (r.pathOf name [])).events = [] := rfl
  rw [surveyEntry, Logged.events_bind_ok _ hfirst, hnone, List.nil_append]
  split
  · rename_i hn
    dsimp only at hn hrest ⊢
    rw [if_pos hn] at hrest
    rw [events_surveyBeneath hrest, hn]
  · rfl

/-- A root that is looked through has the files of its locales found, and all others reported. -/
theorem discover_eq (h : r.survey.outcome = .ok ()) :
    r.discover = ⟨r.ignoredEvents r.ignored, .ok r.localeFiles⟩ := by
  have hevents : r.survey.events = r.ignoredEvents r.ignored := by
    have hentries := Logged.outcome_forM_eq_ok_iff.1 h
    rw [survey, Logged.events_forM h, ignored, findings, List.flatMap_map, ignoredEvents,
      List.map_flatMap]
    exact List.flatMap_congr fun e he => events_surveyEntry (hentries e he)
  simp only [discover, Bind.bind, Logged.bind, h, hevents]
  exact congrArg (Logged.mk · _) (List.append_nil _)

end CatalogRoot

namespace CatalogDirectory

open CatalogRoot

variable (d : CatalogDirectory) (locale : String)

/-! ## Files of a locale -/

/-- Whether something beneath the root is a file of a locale: in the root, by its stem, and
further down by the directory of the root that it is in. A link to nothing in the root counts,
which has no text to read. -/
def isFileOf : List String × Node → Bool
  | ([name], n) => decide (n ≠ .directory) && decide (stem? d.extension name = some locale)
  | (name :: steps, .file _) =>
    decide (name = locale) && decide (d.tree.nodes.get? (d.place ++ [name]) = some .directory) &&
      isCatalog d.extension ⟨steps⟩
  | _ => false

/-- The files of a locale in the order of their paths. -/
def filesIn : List Path :=
  ((d.tree.beneath d.place).filter (d.isFileOf locale)).map fun e => ⟨d.root.components ++ e.1⟩

theorem mem_filesIn {p : Path} :
    p ∈ d.filesIn locale ↔ ∃ steps n, steps ≠ [] ∧ (d.place ++ steps, n) ∈ d.tree.nodes.entries ∧
      d.isFileOf locale (steps, n) = true ∧ p = ⟨d.root.components ++ steps⟩ := by
  rw [filesIn, List.mem_map]
  constructor
  · rintro ⟨⟨steps, n⟩, hmem, rfl⟩
    obtain ⟨hmem, hfile⟩ := List.mem_filter.1 hmem
    obtain ⟨hne, hnode⟩ := FileTree.mem_beneath.1 hmem
    exact ⟨steps, n, hne, hnode, hfile, rfl⟩
  · rintro ⟨steps, n, hne, hnode, hfile, rfl⟩
    exact ⟨(steps, n), List.mem_filter.2 ⟨FileTree.mem_beneath.2 ⟨hne, hnode⟩, hfile⟩, rfl⟩

theorem filesIn_increasing : (d.filesIn locale).Pairwise Path.Before := by
  rw [filesIn, List.pairwise_map]
  exact ((d.tree.beneath_increasing d.place).filter _).imp fun h =>
    Text.before_append d.root.components h

/-! ## Files of an entry -/

/-- The files that an entry of the root has of a locale. -/
def filesFrom (e : String × Node) : List Path :=
  if (d.finding e.1 e.2).locale = locale then (d.finding e.1 e.2).files else []

theorem mem_filesOf {name : String} {p : Path} :
    p ∈ d.filesOf name ↔ ∃ below content, below ≠ [] ∧
      (d.place ++ name :: below, .file content) ∈ d.tree.nodes.entries ∧
      p = d.pathOf name below := by
  rw [filesOf, List.mem_filterMap]
  constructor
  · rintro ⟨⟨below, n⟩, hmem, h⟩
    obtain ⟨hfile, hp⟩ := Option.ite_none_right_eq_some.1 h
    obtain ⟨content, rfl⟩ := Node.isFile_iff.1 hfile
    obtain ⟨hne, hnode⟩ := FileTree.mem_beneath.1 hmem
    rw [List.append_assoc] at hnode
    exact ⟨below, content, hne, hnode, (Option.some.inj hp).symm⟩
  · rintro ⟨below, content, hne, hnode, rfl⟩
    refine ⟨(below, .file content), FileTree.mem_beneath.2 ⟨hne, ?_⟩, rfl⟩
    rw [List.append_assoc]
    exact hnode

theorem filesOf_increasing (name : String) : (d.filesOf name).Pairwise Path.Before := by
  rw [filesOf, List.pairwise_filterMap]
  refine (d.tree.beneath_increasing (d.place ++ [name])).imp ?_
  intro a b hbefore p hp q hq
  obtain ⟨-, hp⟩ := Option.ite_none_right_eq_some.1 hp
  obtain ⟨-, hq⟩ := Option.ite_none_right_eq_some.1 hq
  cases hp
  cases hq
  exact Text.before_append d.root.components (Text.before_append [name] hbefore)

variable {d locale} {name : String} {n : Node}

theorem isFileOf_name :
    d.isFileOf locale ([name], n) = true ↔
      n ≠ .directory ∧ stem? d.extension name = some locale := by
  simp [isFileOf]

theorem isFileOf_beneath {steps : List String} (hne : steps ≠ []) :
    d.isFileOf locale (name :: steps, n) = true ↔ ∃ content, n = .file content ∧ name = locale ∧
      d.tree.nodes.get? (d.place ++ [name]) = some .directory ∧
      isCatalog d.extension ⟨steps⟩ = true := by
  cases steps with
  | nil => exact absurd rfl hne
  | cons step more => cases n <;> simp [isFileOf, and_assoc]

theorem isCatalog_append (extension : String) (start : List String) {steps : List String}
    (hne : steps ≠ []) : isCatalog extension ⟨start ++ steps⟩ = isCatalog extension ⟨steps⟩ := by
  simp only [isCatalog, List.getLast?_append_of_ne_nil start hne]

theorem filesFrom_directory :
    d.filesFrom locale (name, .directory) =
      if name = locale then (d.filesOf name).filter (isCatalog d.extension) else [] := rfl

/-- An entry of the root that is no directory is listed for its stem, or reported. -/
theorem finding_of_ne (hn : n ≠ .directory) :
    d.finding name n =
      match stem? d.extension name with
      | some stem => ⟨stem, [d.root.entry name], []⟩
      | none => ⟨name, [], [d.root.entry name]⟩ := by
  cases n with
  | directory => exact absurd rfl hn
  | file content => rfl
  | danglingLink => rfl

theorem filesFrom_of_ne (hn : n ≠ .directory) :
    d.filesFrom locale (name, n) =
      if stem? d.extension name = some locale then [d.root.entry name] else [] := by
  rw [filesFrom, finding_of_ne hn]
  cases stem? d.extension name with
  | none => simp
  | some stem => simp

/-- The files of an entry that is there are those beneath it that are of the locale. -/
theorem mem_filesFrom (hentry : (d.place ++ [name], n) ∈ d.tree.nodes.entries) {p : Path} :
    p ∈ d.filesFrom locale (name, n) ↔ ∃ steps m,
      (d.place ++ name :: steps, m) ∈ d.tree.nodes.entries ∧
      d.isFileOf locale (name :: steps, m) = true ∧ p = ⟨d.root.components ++ name :: steps⟩ := by
  rw [← Dict.get?_eq_some_iff] at hentry
  by_cases hn : n = .directory
  · subst hn
    rw [filesFrom_directory, List.mem_ite_nil_right, List.mem_filter, mem_filesOf]
    constructor
    · rintro ⟨hname, ⟨steps, content, hne, hnode, rfl⟩, hcatalog⟩
      rw [pathOf, List.append_cons, isCatalog_append d.extension _ hne] at hcatalog
      exact ⟨steps, _, hnode, (isFileOf_beneath hne).2 ⟨content, rfl, hname, hentry, hcatalog⟩,
        rfl⟩
    · rintro ⟨steps, m, hnode, hfile, rfl⟩
      have hne : steps ≠ [] := by
        rintro rfl
        rw [← Dict.get?_eq_some_iff, hentry] at hnode
        exact (isFileOf_name.1 hfile).1 (Option.some.inj hnode).symm
      obtain ⟨content, rfl, hname, -, hcatalog⟩ := (isFileOf_beneath hne).1 hfile
      refine ⟨hname, ⟨steps, content, hne, hnode, rfl⟩, ?_⟩
      rw [List.append_cons, isCatalog_append d.extension _ hne]
      exact hcatalog
  · rw [filesFrom_of_ne hn, List.mem_ite_nil_right, List.mem_singleton]
    constructor
    · rintro ⟨hstem, rfl⟩
      exact ⟨[], n, Dict.get?_eq_some_iff.1 hentry, isFileOf_name.2 ⟨hn, hstem⟩, rfl⟩
    · rintro ⟨steps, m, hnode, hfile, rfl⟩
      by_cases hne : steps = []
      · subst hne
        exact ⟨(isFileOf_name.1 hfile).2, rfl⟩
      · obtain ⟨-, -, -, hdirectory, -⟩ := (isFileOf_beneath hne).1 hfile
        exact absurd (Option.some.inj (hentry.symm.trans hdirectory)) hn

theorem filesFrom_increasing (e : String × Node) :
    (d.filesFrom locale e).Pairwise Path.Before := by
  obtain ⟨name, n⟩ := e
  by_cases hn : n = .directory
  · subst hn
    rw [filesFrom_directory]
    split
    · exact (filesOf_increasing d name).filter _
    · exact List.Pairwise.nil
  · rw [filesFrom_of_ne hn]
    split
    · exact List.pairwise_singleton _ _
    · exact List.Pairwise.nil

/-- Parts of the entries of the root are in the order of paths if each part is: the paths from
different entries differ in the name of the entry already. -/
theorem flatMap_entries_increasing {part : String × Node → List Path}
    (hpart : ∀ e, (part e).Pairwise Path.Before)
    (hstart : ∀ e ∈ d.tree.entries d.place, ∀ p ∈ part e,
      ∃ below, p = ⟨d.root.components ++ e.1 :: below⟩) :
    ((d.tree.entries d.place).flatMap part).Pairwise Path.Before := by
  refine List.pairwise_flatMap.2 ⟨fun e _ => hpart e, ?_⟩
  refine (d.tree.entries_increasing d.place).imp_of_mem ?_
  intro e e' he he' hbefore p hp q hq
  obtain ⟨below, rfl⟩ := hstart e he p hp
  obtain ⟨below', rfl⟩ := hstart e' he' q hq
  exact Text.before_append d.root.components (Text.before_cons hbefore below below')

/-- The entries of the root have the files of a locale, in the order of paths. -/
theorem flatMap_filesFrom :
    (d.tree.entries d.place).flatMap (d.filesFrom locale) = d.filesIn locale := by
  refine List.Pairwise.eq_of_mem_iff ?_ (d.filesIn_increasing locale) ?_
  · refine flatMap_entries_increasing filesFrom_increasing fun e he p hp => ?_
    obtain ⟨below, -, -, -, rfl⟩ := (mem_filesFrom (FileTree.mem_entries.1 he)).1 hp
    exact ⟨below, rfl⟩
  · intro p
    rw [List.mem_flatMap, mem_filesIn]
    constructor
    · rintro ⟨⟨name, n⟩, hentry, hp⟩
      obtain ⟨steps, m, hnode, hfile, rfl⟩ := (mem_filesFrom (FileTree.mem_entries.1 hentry)).1 hp
      exact ⟨name :: steps, m, List.cons_ne_nil name steps, hnode, hfile, rfl⟩
    · rintro ⟨steps, m, hne, hnode, hfile, rfl⟩
      obtain ⟨name, rest, rfl⟩ := List.exists_cons_of_ne_nil hne
      have hentry : ∃ n, (d.place ++ [name], n) ∈ d.tree.nodes.entries := by
        by_cases hrest : rest = []
        · exact ⟨m, hrest ▸ hnode⟩
        · obtain ⟨-, -, -, hdirectory, -⟩ := (isFileOf_beneath hrest).1 hfile
          exact ⟨_, Dict.get?_eq_some_iff.1 hdirectory⟩
      obtain ⟨n, hn⟩ := hentry
      exact ⟨(name, n), FileTree.mem_entries.2 hn,
        (mem_filesFrom hn).2 ⟨rest, m, hnode, hfile, rfl⟩⟩

/-! ## Locales -/

variable (d locale)

/-- Adding findings appends their files to those of the locale. -/
theorem get?_foldl_addFiles (findings : List Finding) (found : Dict String (List Path)) :
    (findings.foldl addFiles found).get? locale =
      let files := findings.flatMap fun f => if f.locale = locale then f.files else []
      if files = [] then found.get? locale
      else some ((found.get? locale).getD [] ++ files) := by
  induction findings generalizing found with
  | nil => rfl
  | cons f rest ih =>
    rw [List.foldl_cons, ih, List.flatMap_cons]
    generalize rest.flatMap (fun f => if f.locale = locale then f.files else []) = later
    by_cases hlocale : f.locale = locale
    · by_cases hfiles : f.files = []
      · simp [addFiles, hlocale, hfiles]
      · by_cases hlater : later = []
        · simp [addFiles, hlocale, hfiles, hlater, Dict.get?_insert]
        · simp [addFiles, hlocale, hfiles, hlater, Dict.get?_insert]
    · have hkeep : (addFiles found f).get? locale = found.get? locale := by
        rw [addFiles]
        split
        · rfl
        · rw [Dict.get?_insert, if_neg hlocale]
      simp only [hkeep, if_neg hlocale, List.nil_append]

/-- Discovery finds the files of a locale, in the order of their paths. -/
theorem get?_localeFiles :
    d.localeFiles.get? locale =
      if d.filesIn locale = [] then none else some (d.filesIn locale) := by
  have hfiles : (d.findings.flatMap fun f => if f.locale = locale then f.files else []) =
      d.filesIn locale := by
    rw [findings, List.flatMap_map, ← flatMap_filesFrom]
    rfl
  rw [localeFiles, get?_foldl_addFiles]
  dsimp only
  rw [hfiles]
  rfl

theorem get?_localeFiles_eq_some_iff {d : CatalogDirectory} {locale : String}
    {files : List Path} :
    d.localeFiles.get? locale = some files ↔ files = d.filesIn locale ∧ d.filesIn locale ≠ [] := by
  rw [get?_localeFiles]
  split
  · rename_i hnil
    simp [hnil]
  · rename_i hne
    simp [hne, eq_comm]

/-- The discovered locales are those that have a file. -/
theorem mem_keys_localeFiles : locale ∈ d.localeFiles.keys ↔ d.filesIn locale ≠ [] := by
  rw [← Dict.contains_iff, Dict.contains, get?_localeFiles]
  split
  · rename_i hnil
    simp [hnil]
  · rename_i hne
    simp [hne]

/-! ## Catalog directories -/

theorem discover_eq : d.discover = ⟨d.ignoredEvents d.ignored, .ok d.localeFiles⟩ :=
  CatalogRoot.discover_eq d.surveyed

theorem ofRoot_toCatalogRoot : ofRoot d.toCatalogRoot = .ok d := by
  have hsurveyed := d.surveyed
  unfold ofRoot
  split
  · rfl
  · rename_i hfailed
    rw [hsurveyed] at hfailed
    cases hfailed

theorem ofRoot_eq_error_iff {r : CatalogRoot} {e : Error} :
    ofRoot r = .error e ↔ r.survey.outcome = .error e := by
  unfold ofRoot
  split <;> rename_i h <;> simp [h]

/-- A catalog directory is one root. -/
theorem eq_of_toCatalogRoot {d d' : CatalogDirectory} (h : d.toCatalogRoot = d'.toCatalogRoot) :
    d = d' := by
  obtain ⟨r, hsurveyed⟩ := d
  obtain ⟨r', hsurveyed'⟩ := d'
  obtain rfl : r = r' := h
  rfl

/-- A root is a catalog directory, or discovery fails beneath it. -/
theorem eq_or_survey_error (r : CatalogRoot) :
    (∃ d : CatalogDirectory, d.toCatalogRoot = r) ∨ ∃ e, r.survey.outcome = .error e := by
  cases h : r.survey.outcome with
  | ok _ => exact .inl ⟨⟨r, h⟩, rfl⟩
  | error e => exact .inr ⟨e, rfl⟩

/-- Loading the catalogs at a path is loading those of the catalog directory there. -/
theorem outcome_loadCatalogs (tree : FileTree) (root : Path) (extension : String)
    (workers : Int) :
    (loadCatalogs tree root extension workers).outcome =
      locate tree root extension workers >>= fun d => d.loadAll.outcome := by
  rw [loadCatalogs, Logged.outcome_bind, Logged.outcome_of, locate]
  cases CatalogRoot.locate tree root extension workers with
  | error e => rfl
  | ok r =>
    rw [Outcome.ok_bind, Outcome.ok_bind]
    rcases eq_or_survey_error r with ⟨d, rfl⟩ | ⟨e, he⟩
    · rw [ofRoot_toCatalogRoot, Outcome.ok_bind]
    · rw [ofRoot_eq_error_iff.2 he, loadAll, Logged.outcome_bind, discover, Logged.outcome_bind, he]
      rfl

end CatalogDirectory

end SymbolText
