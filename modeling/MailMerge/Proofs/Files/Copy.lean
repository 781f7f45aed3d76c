import MailMerge.Files.Basic

/-!
# `MailMerge.Proofs.Files.Copy`: what a copy changes

A file is written only where no folder is, and a way goes only through folders. So writing a file
closes no way that was open: a file that was found before is found after, with its content, unless
it is the one that was written (`find_put_of_ne`), and the one that was written is found at its path
(`find_put_of_place`). A copy is one such write (`copied_of_copy`).

Paths are compared by where they lead. Two spellings of a path are not `Apart`: they name one file,
and a copy from one to the other is no copy but empties it (`content?_of_copy_onto_itself`).
-/

set_option autoImplicit false

namespace MailMerge

/-- Two paths lead to different places. -/
def Route.Apart (path other : String) : Prop :=
  (ofString? path).map location ≠ (ofString? other).map location

instance (path other : String) : Decidable (Route.Apart path other) :=
  inferInstanceAs (Decidable (_ ≠ _))

namespace Files

variable {β : Type}

/-! ### Ways through folders -/

theorem node_eq_ok_iff {files : Files β} {here : Location} {node : FileNode β} :
    files.node here = .ok node ↔ isTooLong here = false ∧ files here = some node := by
  unfold Files.node
  cases isTooLong here <;> cases files here <;> simp

theorem checkFolder_eq_ok_iff {files : Files β} {here : Location} :
    files.checkFolder here = .ok () ↔ files.node here = .ok .folder := by
  unfold checkFolder
  cases files.node here with
  | error e => simp
  | ok node => cases node <;> simp

theorem checkFolders_eq_ok_iff {files : Files β} {places : List Location} :
    files.checkFolders places = .ok () ↔ ∀ place ∈ places, files.node place = .ok .folder := by
  induction places with
  | nil => simp [checkFolders]
  | cons place places ih =>
      rw [List.forall_mem_cons, ← ih, ← checkFolder_eq_ok_iff, checkFolders]
      cases files.checkFolder place <;> simp

/-- What is at a place that is not written. -/
theorem node_put_of_ne {files : Files β} {here there : Location} (node : FileNode β)
    (h : here ≠ there) : (files.put there node).node here = files.node here := by
  unfold Files.node
  rw [put_of_ne files node h]

/-- A file that is written where no folder is stands in no way that was open. -/
theorem checkFolders_put {files : Files β} {there : Location} (hthere : files there ≠ some .folder)
    (content : β) {places : List Location} (h : files.checkFolders places = .ok ()) :
    (files.put there (.file content)).checkFolders places = .ok () := by
  rw [checkFolders_eq_ok_iff] at h ⊢
  intro place hplace
  have hfolder := h place hplace
  rw [node_put_of_ne, hfolder]
  rintro rfl
  exact hthere (node_eq_ok_iff.1 hfolder).2

/-! ### Files that are found -/

/-- A file is found at the end of a way through folders. -/
theorem find_eq_ok_iff {files : Files β} {path : String} {here : Location} {content : β} :
    files.find path = .ok (here, content)
      ↔ ∃ r, route path = .ok r
        ∧ files.checkFolders (if r.namesFolder then r.places else r.places.dropLast) = .ok ()
        ∧ here = r.location ∧ files.node here = .ok (.file content) := by
  unfold find locate
  cases route path with
  | error e => simp
  | ok r =>
      simp only [Except.ok.injEq, exists_eq_left']
      cases files.checkFolders (if r.namesFolder then r.places else r.places.dropLast) with
      | error e => simp [Except.map]
      | ok _ =>
          simp only [Except.map, true_and]
          constructor
          · intro h
            cases hnode : files.node r.location with
            | error e => simp [hnode] at h
            | ok node =>
                cases node with
                | folder => simp [hnode] at h
                | file found =>
                    rw [hnode] at h
                    cases h
                    exact ⟨rfl, hnode⟩
          · rintro ⟨rfl, hnode⟩
            rw [hnode]

/-- A file can be written at the end of a way through folders where no folder is. -/
theorem exists_of_place_eq_ok {files : Files β} {path : String} {there : Location}
    (h : files.place path = .ok there) :
    ∃ r, route path = .ok r ∧ r.namesFolder = false
      ∧ files.checkFolders r.places.dropLast = .ok ()
      ∧ there = r.location ∧ isTooLong there = false ∧ files there ≠ some .folder := by
  unfold place at h
  cases hroute : route path with
  | error e => simp [hroute] at h
  | ok r =>
      rw [hroute] at h
      cases hfolders : files.checkFolders r.places.dropLast with
      | error e => simp [hfolders] at h
      | ok _ =>
          simp only [hfolders] at h
          unfold placeFor at h
          split at h
          · rename_i name _ hname
            split at h
            · cases h
            · cases h
            · rename_i hfolder hlong
              cases h
              have hshort : isTooLong r.location = false := by
                rw [← Bool.not_eq_true]
                intro hlong'
                exact hlong (if_pos hlong')
              exact ⟨r, rfl, hname, hfolders, rfl, hshort, fun hat =>
                hfolder (node_eq_ok_iff.2 ⟨hshort, hat⟩)⟩
          · cases h

theorem ofString?_of_route {path : String} {r : Route} (h : route path = .ok r) :
    Route.ofString? path = some r := by
  unfold route at h
  split at h
  · cases h
  · split at h
    · cases h
    · split at h
      · cases h
      · cases h
        assumption

theorem content?_eq_some_iff {files : Files β} {path : String} {content : β} :
    files.content? path = some content ↔ ∃ here, files.find path = .ok (here, content) := by
  unfold content? read
  cases files.find path with
  | error e => simp [Except.map, Except.toOption]
  | ok found =>
      obtain ⟨here, found⟩ := found
      simp [Except.map, Except.toOption]

/-! ### Files that are written -/

section Write

variable {files : Files β} {path : String} {there : Location}

/-- A file that is written at a path is found there. -/
theorem find_put_of_place (h : files.place path = .ok there) (content : β) :
    (files.put there (.file content)).find path = .ok (there, content) := by
  obtain ⟨r, hroute, hfile, hfolders, rfl, hshort, hthere⟩ := exists_of_place_eq_ok h
  refine find_eq_ok_iff.2 ⟨r, hroute, ?_, rfl, node_eq_ok_iff.2 ⟨hshort, put_self ..⟩⟩
  rw [hfile]
  exact checkFolders_put hthere content hfolders

/-- A file that was found is found with what is written to its place. -/
theorem find_put_of_find {here : Location} (content : β) {found : β}
    (h : files.find path = .ok (here, found)) :
    (files.put here (.file content)).find path = .ok (here, content) := by
  obtain ⟨r, hroute, hfolders, hhere, hnode⟩ := find_eq_ok_iff.1 h
  obtain ⟨hshort, hfile⟩ := node_eq_ok_iff.1 hnode
  have hfolder : files here ≠ some .folder := by simp [hfile]
  exact find_eq_ok_iff.2 ⟨r, hroute, checkFolders_put hfolder content hfolders, hhere,
    node_eq_ok_iff.2 ⟨hshort, put_self ..⟩⟩

/-- Another file is found as before. -/
theorem find_put_of_ne {other : String} (hplace : files.place path = .ok there) (content : β)
    {here : Location} {found : β} (h : files.find other = .ok (here, found)) (hne : here ≠ there) :
    (files.put there (.file content)).find other = .ok (here, found) := by
  obtain ⟨r, hroute, hfolders, hhere, hnode⟩ := find_eq_ok_iff.1 h
  obtain ⟨-, -, -, -, -, -, hthere⟩ := exists_of_place_eq_ok hplace
  refine find_eq_ok_iff.2 ⟨r, hroute, checkFolders_put hthere content hfolders, hhere, ?_⟩
  rw [node_put_of_ne _ hne, hnode]

/-- A file that was found is elsewhere than where one can be written just if the paths are apart. -/
theorem apart_iff_ne {other : String} (hplace : files.place path = .ok there) {here : Location}
    {found : β} (h : files.find other = .ok (here, found)) :
    Route.Apart other path ↔ here ≠ there := by
  obtain ⟨r, hroute, -, rfl, -⟩ := find_eq_ok_iff.1 h
  obtain ⟨r', hroute', -, -, rfl, -, -⟩ := exists_of_place_eq_ok hplace
  unfold Route.Apart
  rw [ofString?_of_route hroute, ofString?_of_route hroute', Option.map_some, Option.map_some,
    ne_eq, Option.some.injEq]

end Write

/-! ### Copies -/

/-- A copy is one write of what the file holds, but not onto itself. -/
theorem exists_of_copy_eq_ok {files copied : Files β} {blank : β} {source target : String}
    (h : files.copy blank source target = .ok copied) :
    ∃ here content there, files.find source = .ok (here, content)
      ∧ files.place target = .ok there
      ∧ copied = files.put there (.file (if there = here then blank else content)) := by
  unfold copy at h
  split at h
  · cases h
  · cases h
  · rename_i here content hfind
    cases hplace : files.place target with
    | error e => simp [hplace, Except.map] at h
    | ok there =>
        rw [hplace, Except.map, Except.ok.injEq] at h
        exact ⟨here, content, there, hfind, rfl, h.symm⟩

theorem copied_of_copy {files copied : Files β} {blank : β} {source target : String}
    (hapart : Route.Apart source target) (h : files.copy blank source target = .ok copied) :
    ∃ here content there, files.find source = .ok (here, content)
      ∧ files.place target = .ok there ∧ copied = files.put there (.file content) := by
  obtain ⟨here, content, there, hfind, hplace, rfl⟩ := exists_of_copy_eq_ok h
  have hne := ((apart_iff_ne hplace hfind).1 hapart).symm
  exact ⟨here, content, there, hfind, hplace, by rw [if_neg hne]⟩

/-- A copy onto itself, under any spelling of its path, is none: it empties the file. -/
theorem exists_of_copy_onto_itself {files copied : Files β} {blank : β} {source target : String}
    (hsame : ¬ Route.Apart source target) (h : files.copy blank source target = .ok copied) :
    ∃ here content, files.find source = .ok (here, content) ∧ files.place target = .ok here
      ∧ copied = files.put here (.file blank) := by
  obtain ⟨here, content, there, hfind, hplace, rfl⟩ := exists_of_copy_eq_ok h
  obtain rfl : here = there := by
    rw [apart_iff_ne hplace hfind] at hsame
    exact Decidable.of_not_not hsame
  exact ⟨here, content, hfind, hplace, by rw [if_pos rfl]⟩

theorem content?_of_copy_onto_itself {files copied : Files β} {blank : β} {source target : String}
    (hsame : ¬ Route.Apart source target) (h : files.copy blank source target = .ok copied) :
    copied.content? source = some blank := by
  obtain ⟨here, content, hfind, -, rfl⟩ := exists_of_copy_onto_itself hsame h
  exact content?_eq_some_iff.2 ⟨here, find_put_of_find blank hfind⟩

theorem put_put (files : Files β) (here : Location) (node node' : FileNode β) :
    (files.put here node).put here node' = files.put here node' := by
  funext place
  unfold put
  split <;> rfl

end Files

end MailMerge
