import MailMerge.Proofs.Xml.Attributes
import MailMerge.Proofs.Xml.Retagged
import MailMerge.Xml.Space
import Mathlib.Data.List.Find
import Mathlib.Data.List.TakeWhile

/-!
# `MailMerge.Proofs.Xml.Prefix`: another namespace prefix

Names under a prefix are compared as whole texts, so the prefix itself must not matter: a document
in which one prefix gives way to another that stood in no name has the new names where it had the
old ones (`Renaming.name_eq_iff`, `Renaming.attributeName_eq_iff`), and its root element declares the
new prefix where it declared the old one (`Document.BindsOnce.rename`).
-/

set_option autoImplicit false

namespace MailMerge.Xml

/-! ### Names under a prefix -/

/-- The part of a name behind a prefix. A name without a colon has the empty prefix. -/
def localName? (nsPrefix name : String) : Option String :=
  if nsPrefix = "" then
    if ':' ∈ name.toList then none else some name
  else if (nsPrefix ++ ":").toList.isPrefixOf name.toList then
    some (.ofList (name.toList.drop (nsPrefix ++ ":").toList.length))
  else none

theorem qualifiedName_of_ne {nsPrefix : String} (h : nsPrefix ≠ "") (localName : String) :
    qualifiedName nsPrefix localName = nsPrefix ++ ":" ++ localName := if_neg h

theorem toList_qualifiedName {nsPrefix : String} (h : nsPrefix ≠ "") (localName : String) :
    (qualifiedName nsPrefix localName).toList
      = nsPrefix.toList ++ ':' :: localName.toList := by
  rw [qualifiedName_of_ne h, String.toList_append, String.toList_append, List.append_assoc]
  rfl

theorem localName?_eq_some_iff {nsPrefix name localName : String} :
    localName? nsPrefix name = some localName
      ↔ name = qualifiedName nsPrefix localName ∧ (nsPrefix = "" → ':' ∉ localName.toList) := by
  unfold localName?
  split
  · rename_i hempty
    subst hempty
    rw [qualifiedName, if_pos rfl]
    split
    · rename_i hcolon
      constructor
      · intro h
        cases h
      · rintro ⟨rfl, hplain⟩
        exact absurd hcolon (hplain rfl)
    · rename_i hplain
      constructor
      · intro h
        cases h
        exact ⟨rfl, fun _ => hplain⟩
      · rintro ⟨rfl, -⟩
        rfl
  · rename_i hne
    rw [qualifiedName_of_ne hne]
    split
    · rename_i hbegins
      obtain ⟨rest, hrest⟩ := List.isPrefixOf_iff_prefix.1 hbegins
      have hname : name = nsPrefix ++ ":" ++ .ofList rest := by
        rw [← String.toList_inj, String.toList_append, String.toList_ofList, hrest]
      rw [← hrest, List.drop_left, hname, String.append_right_inj, Option.some.injEq]
      exact ⟨fun h => ⟨h, fun hempty => absurd hempty hne⟩, fun h => h.1⟩
    · rename_i hbegins
      constructor
      · intro h
        cases h
      · rintro ⟨rfl, -⟩
        refine absurd (List.isPrefixOf_iff_prefix.2 ?_) hbegins
        rw [String.toList_append (s := nsPrefix ++ ":")]
        exact List.prefix_append _ _

/-- What stands before the first colon of a name under a prefix. -/
theorem takeWhile_qualifiedName {nsPrefix : String} (h : nsPrefix ≠ "")
    (hplain : ':' ∉ nsPrefix.toList) (localName : String) :
    (qualifiedName nsPrefix localName).toList.takeWhile (· != ':') = nsPrefix.toList := by
  rw [toList_qualifiedName h, List.takeWhile_append_of_pos]
  · simp
  · intro c hc
    simp only [bne_iff_ne, ne_eq]
    rintro rfl
    exact hplain hc

theorem colon_mem_qualifiedName {nsPrefix : String} (h : nsPrefix ≠ "") (localName : String) :
    ':' ∈ (qualifiedName nsPrefix localName).toList := by
  rw [toList_qualifiedName h]
  simp

/-- A name splits at its only colon in one way. -/
theorem eq_of_qualifiedName_eq {nsPrefix localName nsPrefix' localName' : String}
    (h : nsPrefix ≠ "") (h' : nsPrefix' ≠ "") (hplain : ':' ∉ nsPrefix.toList)
    (hplain' : ':' ∉ localName.toList)
    (heq : qualifiedName nsPrefix' localName' = qualifiedName nsPrefix localName) :
    nsPrefix' = nsPrefix := by
  have hlists := congrArg String.toList heq
  rw [toList_qualifiedName h, toList_qualifiedName h', eq_comm,
    List.append_cons_inj_of_notMem hplain hplain'] at hlists
  exact String.toList_inj.1 hlists.1.symm

/-- A prefix stands in none of the names of a tag. -/
def Tag.Lacks (nsPrefix : String) (tag : Tag) : Prop :=
  localName? nsPrefix tag.name = none ∧ ∀ a ∈ tag.attributes, localName? nsPrefix a.name = none

instance (nsPrefix : String) (tag : Tag) : Decidable (tag.Lacks nsPrefix) :=
  inferInstanceAs (Decidable (_ ∧ _))

/-! ### Declarations -/

/-- An attribute declares a prefix by its name under `xmlns`. -/
theorem Attribute.declaredPrefix?_eq (a : Attribute) :
    a.declaredPrefix? = if a.name = "xmlns" then some "" else localName? "xmlns" a.name := rfl

theorem Attribute.declaredPrefix?_of_name {a : Attribute} {nsPrefix : String}
    (h : a.name = qualifiedName "xmlns" nsPrefix) : a.declaredPrefix? = some nsPrefix := by
  have hdefault : a.name ≠ "xmlns" := by
    intro hdefault
    have hcolon := colon_mem_qualifiedName (show "xmlns" ≠ "" by decide) nsPrefix
    rw [← h, hdefault] at hcolon
    exact absurd hcolon (by decide)
  rw [declaredPrefix?_eq, if_neg hdefault]
  exact localName?_eq_some_iff.2 ⟨h, fun hempty => absurd hempty (by decide)⟩

/-- The root element binds a namespace to a prefix by one attribute, and binds it by no other. -/
def Document.BindsOnce (d : Document) (nsPrefix uri : String) : Prop :=
  (d.root.attributes.filter fun a => a.value = uri ∧ a.declaredPrefix?.isSome).map (·.name)
    = [qualifiedName "xmlns" nsPrefix]

instance (d : Document) (nsPrefix uri : String) : Decidable (d.BindsOnce nsPrefix uri) :=
  inferInstanceAs (Decidable (_ = _))

theorem Document.BindsOnce.prefixFor?_eq {d : Document} {nsPrefix uri : String}
    (h : d.BindsOnce nsPrefix uri) : d.prefixFor? uri = some nsPrefix := by
  unfold BindsOnce at h
  unfold prefixFor?
  -- The first attribute that binds the namespace is the only one.
  generalize d.root.attributes = as at h ⊢
  induction as with
  | nil => cases h
  | cons a as ih =>
      rw [List.findSome?_cons]
      rw [List.filter_cons] at h
      by_cases hbinds : a.value = uri ∧ a.declaredPrefix?.isSome
      · rw [if_pos (by simpa using hbinds), List.map_cons, List.cons.injEq] at h
        rw [if_pos hbinds.1, Attribute.declaredPrefix?_of_name h.1]
      · rw [if_neg (by simpa using hbinds)] at h
        have hnone : (if a.value = uri then a.declaredPrefix? else none) = none := by
          split
          · rename_i hvalue
            simpa [hvalue] using hbinds
          · rfl
        rw [hnone]
        exact ih h

/-! ### Renaming a prefix -/

/-- A new prefix for an old one. -/
structure Renaming where
  old : String
  new : String

namespace Renaming

/-- Neither prefix is reserved, and the new one is a prefix. -/
structure Valid (r : Renaming) : Prop where
  old_ne_xml : r.old ≠ "xml"
  old_ne_xmlns : r.old ≠ "xmlns"
  new_ne_empty : r.new ≠ ""
  new_plain : ':' ∉ r.new.toList
  new_ne_xml : r.new ≠ "xml"
  new_ne_xmlns : r.new ≠ "xmlns"

/-- The name of an element, under the new prefix where it was under the old one. -/
def name (r : Renaming) (n : String) : String :=
  match localName? r.old n with
  | some localName => qualifiedName r.new localName
  | none => n

/-- The name of an attribute. A declaration of the old prefix becomes one of the new prefix; the
declaration of a default namespace is under no prefix. -/
def attributeName (r : Renaming) (n : String) : String :=
  if n = qualifiedName "xmlns" r.old then qualifiedName "xmlns" r.new
  else if n = "xmlns" then n
  else r.name n

def onAttribute (r : Renaming) (a : Attribute) : Attribute :=
  { a with name := r.attributeName a.name }

/-- A tag with the new prefix for the old one in all its names. -/
def onTag (r : Renaming) (tag : Tag) : Tag := ⟨r.name tag.name, tag.attributes.map r.onAttribute⟩

variable {r : Renaming} {n l : String}

/-- The names under the new prefix are those that were under the old one, if the new prefix stood in
no name. -/
theorem name_eq_iff (hn : localName? r.new n = none) (hl : ':' ∉ l.toList) :
    r.name n = qualifiedName r.new l ↔ n = qualifiedName r.old l := by
  unfold name
  cases hold : localName? r.old n with
  | some l' =>
      obtain ⟨rfl, -⟩ := localName?_eq_some_iff.1 hold
      rw [qualifiedName_inj, qualifiedName_inj]
  | none =>
      have hne (nsPrefix : String) (h : localName? nsPrefix n = none) :
          n ≠ qualifiedName nsPrefix l := by
        intro heq
        rw [localName?_eq_some_iff.2 ⟨heq, fun _ => hl⟩] at h
        cases h
      exact iff_of_false (hne _ hn) (hne _ hold)

/-- No declaration of a prefix is a name under that prefix whose local part has neither a colon nor
an `m`, as it has an `m` more than the prefix. -/
theorem declaration_ne (nsPrefix : String) (hl : ':' ∉ l.toList) (hm : 'm' ∉ l.toList) :
    qualifiedName "xmlns" nsPrefix ≠ qualifiedName nsPrefix l := by
  intro h
  by_cases hempty : nsPrefix = ""
  · subst hempty
    have hcolon := colon_mem_qualifiedName (show "xmlns" ≠ "" by decide) ""
    rw [h, qualifiedName, if_pos rfl] at hcolon
    exact hl hcolon
  · have hcount := congrArg (fun s : String => s.toList.count 'm') h
    simp only [toList_qualifiedName hempty, toList_qualifiedName (show "xmlns" ≠ "" by decide),
      List.count_append, List.count_cons, List.count_eq_zero.2 hm] at hcount
    have hone : "xmlns".toList.count 'm' = 1 := by decide
    rw [hone] at hcount
    omega

/-- The same of the names of attributes. -/
theorem attributeName_eq_iff (hr : r.Valid) (hn : localName? r.new n = none) (hl : ':' ∉ l.toList)
    (hm : 'm' ∉ l.toList) :
    r.attributeName n = qualifiedName r.new l ↔ n = qualifiedName r.old l := by
  unfold attributeName
  split
  · rename_i hdeclared
    subst hdeclared
    -- The new name is a declaration too, and no name under the new prefix is.
    refine iff_of_false (fun h => ?_) (declaration_ne r.old hl hm)
    exact hr.new_ne_xmlns
      (eq_of_qualifiedName_eq hr.new_ne_empty (by decide) hr.new_plain hl h).symm
  · split
    · rename_i hdefault
      subst hdefault
      have hne {nsPrefix : String} : "xmlns" ≠ qualifiedName nsPrefix l := by
        intro h
        by_cases hempty : nsPrefix = ""
        · subst hempty
          rw [qualifiedName, if_pos rfl] at h
          exact hm (h ▸ by decide)
        · have hcolon := colon_mem_qualifiedName hempty l
          rw [← h] at hcolon
          exact absurd hcolon (by decide)
      exact iff_of_false hne hne
    · exact name_eq_iff hn hl

/-- The attribute that keeps white space is the same before and after. -/
theorem attributeName_eq_spaceAttribute_iff (hr : r.Valid) :
    r.attributeName n = Element.spaceAttribute ↔ n = Element.spaceAttribute := by
  have hne {nsPrefix localName : String} (hempty : nsPrefix ≠ "") (hxml : nsPrefix ≠ "xml") :
      qualifiedName nsPrefix localName ≠ Element.spaceAttribute := fun h =>
    hxml (eq_of_qualifiedName_eq (show "xml" ≠ "" by decide) hempty (by decide)
      (show ':' ∉ "space".toList by decide) h)
  unfold attributeName
  split
  · rename_i hdeclared
    subst hdeclared
    exact iff_of_false (hne (by decide) (by decide)) (hne (by decide) (by decide))
  · split
    · rfl
    · unfold name
      cases hold : localName? r.old n with
      | none => rfl
      | some l =>
          obtain ⟨rfl, hplain⟩ := localName?_eq_some_iff.1 hold
          refine iff_of_false (hne hr.new_ne_empty hr.new_ne_xml) fun h => ?_
          by_cases hempty : r.old = ""
          · rw [hempty, qualifiedName, if_pos rfl] at h
            exact hplain hempty (h ▸ by decide)
          · exact hne hempty hr.old_ne_xml h

/-- What declares no prefix declares none under its new name. -/
theorem declaredPrefix?_onAttribute (hr : r.Valid) {a : Attribute} (h : a.declaredPrefix? = none) :
    (r.onAttribute a).declaredPrefix? = none := by
  have hdeclared : a.name ≠ qualifiedName "xmlns" r.old := by
    intro heq
    rw [Attribute.declaredPrefix?_of_name heq] at h
    cases h
  rw [Attribute.declaredPrefix?_eq] at h
  split at h
  · cases h
  rename_i hdefault
  have hname : (r.onAttribute a).name = r.name a.name := by
    show r.attributeName a.name = _
    rw [attributeName, if_neg hdeclared, if_neg hdefault]
  rw [Attribute.declaredPrefix?_eq, hname, name]
  cases hold : localName? r.old a.name with
  | none =>
      dsimp only
      rw [if_neg hdefault, h]
  | some l =>
      -- The name is under the new prefix now, which is not `xmlns`.
      dsimp only
      rw [if_neg, Option.eq_none_iff_forall_ne_some]
      · intro l' hl'
        have hwhole := congrArg (fun s : String => s.toList.takeWhile (· != ':'))
          (localName?_eq_some_iff.1 hl').1
        simp only [takeWhile_qualifiedName hr.new_ne_empty hr.new_plain,
          takeWhile_qualifiedName (show "xmlns" ≠ "" by decide) (by decide)] at hwhole
        exact hr.new_ne_xmlns (String.toList_inj.1 hwhole)
      · intro heq
        have hcolon := colon_mem_qualifiedName hr.new_ne_empty l
        rw [heq] at hcolon
        exact absurd hcolon (by decide)

/-- An attribute binds a namespace under its new name exactly when it did under its old one, if none
but the declaration of the old prefix did. -/
theorem binds_onAttribute_iff (hr : r.Valid) {a : Attribute} {uri : String}
    (honly : a.value = uri → a.declaredPrefix?.isSome → a.name = qualifiedName "xmlns" r.old) :
    (r.onAttribute a).value = uri ∧ (r.onAttribute a).declaredPrefix?.isSome
      ↔ a.value = uri ∧ a.declaredPrefix?.isSome := by
  by_cases hname : a.name = qualifiedName "xmlns" r.old
  · have hnew : (r.onAttribute a).name = qualifiedName "xmlns" r.new := if_pos hname
    rw [Attribute.declaredPrefix?_of_name hname, Attribute.declaredPrefix?_of_name hnew]
    rfl
  · refine and_congr_right fun hvalue => ?_
    have hnone : a.declaredPrefix? = none := by
      by_contra hsome
      exact hname (honly hvalue (Option.isSome_iff_ne_none.2 hsome))
    rw [declaredPrefix?_onAttribute hr hnone, hnone]

end Renaming

/-- A document with the new prefix for the old one in all its names and declarations. -/
def Document.rename (r : Renaming) (d : Document) : Document := d.retag r.onTag

namespace Document

variable {r : Renaming}

/-- The root element binds to the new prefix what it bound to the old one. -/
theorem BindsOnce.rename (hr : r.Valid) {d : Document} {uri : String}
    (h : d.BindsOnce r.old uri) : (d.rename r).BindsOnce r.new uri := by
  unfold BindsOnce at h ⊢
  have honly : ∀ a ∈ d.root.attributes, a.value = uri → a.declaredPrefix?.isSome →
      a.name = qualifiedName "xmlns" r.old := by
    intro a ha hvalue hdeclared
    have hmem : a.name ∈ [qualifiedName "xmlns" r.old] := by
      rw [← h]
      exact List.mem_map_of_mem (List.mem_filter.2 ⟨ha, by simp [hvalue, hdeclared]⟩)
    exact List.mem_singleton.1 hmem
  -- The same attribute is found, and its name is a declaration of the new prefix.
  have hfilter : d.root.attributes.filter
      ((fun a => decide (a.value = uri ∧ a.declaredPrefix?.isSome)) ∘ r.onAttribute)
        = d.root.attributes.filter fun a => a.value = uri ∧ a.declaredPrefix?.isSome :=
    List.filter_congr fun a ha =>
      decide_eq_decide.2 (Renaming.binds_onAttribute_iff hr (honly a ha))
  have hnames : (Attribute.name ∘ r.onAttribute) = r.attributeName ∘ Attribute.name := rfl
  show ((d.root.attributes.map r.onAttribute).filter _).map _ = _
  rw [List.filter_map, List.map_map, hfilter, hnames, ← List.map_map, h]
  simp [Renaming.attributeName]

end Document

/-! ### Elements -/

namespace Element

variable {r : Renaming}

/-- A prefix stands in no name of an element and of all elements below it. -/
def Lacks (nsPrefix : String) (e : Element) : Prop := e.Everywhere fun x => x.toTag.Lacks nsPrefix

instance (nsPrefix : String) (e : Element) : Decidable (e.Lacks nsPrefix) :=
  inferInstanceAs (Decidable (e.Everywhere _))

theorem Lacks.of_mem_elements {nsPrefix : String} {e x : Element} {index : Nat}
    (h : e.Lacks nsPrefix) (hx : (index, x) ∈ e.elements) : x.Lacks nsPrefix :=
  (everywhere_iff.1 h).2 index x (mem_elements_iff.1 hx)

theorem name_retag_eq_iff {e : Element} (h : e.Lacks r.new) {l : String} (hl : ':' ∉ l.toList) :
    (e.retag r.onTag).name = qualifiedName r.new l ↔ e.name = qualifiedName r.old l :=
  Renaming.name_eq_iff h.self.1 hl

theorem attribute?_retag (hr : r.Valid) {e : Element} (h : e.Lacks r.new) {l : String}
    (hl : ':' ∉ l.toList) (hm : 'm' ∉ l.toList) :
    (e.retag r.onTag).attribute? (qualifiedName r.new l)
      = e.attribute? (qualifiedName r.old l) := by
  have hlacks := h.self.2
  unfold attribute?
  show Option.map _ ((e.attributes.map r.onAttribute).find? _) = _
  rw [List.find?_map, Option.map_map]
  have hfind : e.attributes.find?
      ((fun a => decide (a.name = qualifiedName r.new l)) ∘ r.onAttribute)
        = e.attributes.find? fun a => a.name = qualifiedName r.old l :=
    List.find?_congr fun a ha => decide_eq_decide.2
      (Renaming.attributeName_eq_iff hr (hlacks a ha) hl hm)
  rw [hfind]
  rfl

theorem findChild?_retag {e : Element} (h : e.Lacks r.new) {l : String} (hl : ':' ∉ l.toList) :
    (e.retag r.onTag).findChild? (qualifiedName r.new l)
      = (e.findChild? (qualifiedName r.old l)).map (retagEntry r.onTag) := by
  unfold findChild?
  rw [elements_retag, List.find?_map]
  congr 1
  exact List.find?_congr fun entry hentry =>
    decide_eq_decide.2 (name_retag_eq_iff (h.of_mem_elements hentry) hl)

theorem setText_retag (f : Tag → Tag) (e : Element) (value : String) :
    (e.retag f).setText value = (e.setText value).retag f := by
  unfold setText
  split
  · rfl
  · rfl

/-- Keeping white space is marked in the same way under either prefix. -/
theorem set_map_onAttribute (hr : r.Valid) (value : String) (as : List Attribute) :
    setAttribute.set spaceAttribute value (as.map r.onAttribute)
      = (setAttribute.set spaceAttribute value as).map r.onAttribute := by
  have hspace : r.onAttribute ⟨spaceAttribute, value⟩ = ⟨spaceAttribute, value⟩ :=
    congrArg (Attribute.mk · value) ((Renaming.attributeName_eq_spaceAttribute_iff hr).2 rfl)
  induction as with
  | nil => exact congrArg ([·]) hspace.symm
  | cons a as ih =>
      have hname : (r.onAttribute a).name = spaceAttribute ↔ a.name = spaceAttribute :=
        Renaming.attributeName_eq_spaceAttribute_iff hr
      rw [List.map_cons, setAttribute.set, setAttribute.set]
      by_cases h : a.name = spaceAttribute
      · rw [if_pos (hname.2 h), if_pos h, List.map_cons, hspace]
      · rw [if_neg (hname.not.2 h), if_neg h, List.map_cons, ih]

theorem showText_retag (hr : r.Valid) (e : Element) (value : String) :
    (e.retag r.onTag).showText value = (e.showText value).retag r.onTag := by
  unfold showText
  split
  · rw [setText_retag]
    have hset := set_map_onAttribute hr "preserve" (e.setText value).attributes
    exact congrArg (fun as => Element.mk ⟨_, as⟩ _) hset
  · exact setText_retag r.onTag e value

theorem localName?_spaceAttribute (hr : r.Valid) : localName? r.new spaceAttribute = none := by
  rw [Option.eq_none_iff_forall_ne_some]
  intro l hl
  exact hr.new_ne_xml (eq_of_qualifiedName_eq (show "xml" ≠ "" by decide) hr.new_ne_empty
    (by decide) (show ':' ∉ "space".toList by decide) (localName?_eq_some_iff.1 hl).1.symm)

/-- Showing a text brings in no name under the new prefix. -/
theorem lacks_toTag_showText (hr : r.Valid) {e : Element} (h : e.toTag.Lacks r.new)
    (value : String) : (e.showText value).toTag.Lacks r.new := by
  unfold showText
  split
  · refine ⟨h.1, fun a ha => ?_⟩
    have hname : a.name ∈ (setAttribute.set spaceAttribute "preserve" e.attributes).map (·.name) :=
      List.mem_map_of_mem ha
    -- The only name that can be added is that of the attribute that keeps white space.
    rw [names_set] at hname
    have hold : a.name ∈ e.attributes.map (·.name) → localName? r.new a.name = none := by
      intro hmem
      obtain ⟨b, hb, hname⟩ := List.mem_map.1 hmem
      rw [← hname]
      exact h.2 b hb
    split at hname
    · exact hold hname
    · rcases List.mem_append.1 hname with hname | hname
      · exact hold hname
      · rw [List.mem_singleton.1 hname]
        exact localName?_spaceAttribute hr
  · exact h

end Element

end MailMerge.Xml
