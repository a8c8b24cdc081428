import Utterance.Proofs.Admission
import Utterance.Proofs.Renumbering

/-!
# Elements that answer the same requests

Builds that answer the same requests make the same elements, whatever the order of the requests was.
Each element of one has a twin in the other, the element with its name (`renumbering`). The request
that asked for it tells its shape, so if no derived name is asked for with two shapes, the twins
have one shape, and an admissible kind is its shape but for the places of its children
(`Kind.eq_renumber`). Marks for empty matches agree from the children up, and so the elements of one
build are those of the other, renumbered (`Lowering.Records.renumbered`).
-/
namespace Utterance

/-- Places with the names of others are the places that these are brought to. -/
theorem eq_map_of_map_eq {nameOf otherName : Nat → String} {shift : Nat → Nat}
    {children places : List Nat} (same : places.map otherName = children.map nameOf)
    (brought : ∀ child ∈ children, ∀ place ∈ places,
      otherName place = nameOf child → place = shift child) :
    places = children.map shift := by
  induction places generalizing children with
  | nil =>
    cases children with
    | nil => rfl
    | cons child rest => exact absurd same (by simp)
  | cons place others hypothesis =>
    cases children with
    | nil => exact absurd same (by simp)
    | cons child rest =>
      rw [List.map_cons, List.map_cons, List.cons.injEq] at same
      rw [List.map_cons, brought child List.mem_cons_self place List.mem_cons_self same.1,
        hypothesis same.2 fun child member place inside =>
          brought child (List.mem_cons_of_mem _ member) place (List.mem_cons_of_mem _ inside)]

namespace Kind

/-- Admissible kinds of one shape are one kind but for the places of their children. -/
theorem eq_renumber {case : CasePolicy} {size more : Nat} {kind other : Kind}
    (admissible : kind.Admissible case size) (allowed : other.Admissible case more)
    {nameOf otherName : Nat → String} (same : other.shape otherName = kind.shape nameOf)
    {shift : Nat → Nat} (brought : ∀ child ∈ kind.children, ∀ place ∈ other.children,
      otherName place = nameOf child → place = shift child) :
    other = kind.renumber shift := by
  cases kind with
  | literals set =>
    obtain ⟨held, rfl, stored⟩ := of_shape_eq same
    obtain ⟨-, members, rfl, -⟩ := admissible
    obtain ⟨-, others, rfl, -⟩ := allowed
    rw [LiteralSet.ofMembers_congr stored, renumber]
  | pattern matcher =>
    obtain ⟨held, rfl, sources⟩ := of_shape_eq same
    obtain ⟨-, source, compiled⟩ := admissible
    obtain ⟨-, text, read⟩ := allowed
    rw [Pattern.source_of_compile compiled, Pattern.source_of_compile read] at sources
    rw [sources, compiled] at read
    rw [Except.ok.inj read, renumber]
  | sequence children =>
    obtain ⟨places, rfl, names⟩ := of_shape_eq same
    rw [renumber, eq_map_of_map_eq names brought]
  | choice children =>
    obtain ⟨places, rfl, names⟩ := of_shape_eq same
    rw [renumber, eq_map_of_map_eq names brought]
  | optional inner =>
    obtain ⟨place, rfl, names⟩ := of_shape_eq same
    rw [renumber, brought inner List.mem_cons_self place List.mem_cons_self names]
  | repetition inner min max =>
    obtain ⟨place, rfl, names⟩ := of_shape_eq same
    rw [renumber, brought inner List.mem_cons_self place List.mem_cons_self names]

/-- A kind that is renumbered has an empty match when the kind has one with the marks brought back.
-/
theorem nullable_renumber (shift : Nat → Nat) (isNullable : Nat → Bool) (kind : Kind) :
    (kind.renumber shift).nullable isNullable = kind.nullable (isNullable ∘ shift) := by
  cases kind with
  | sequence children => exact List.all_map
  | choice children => exact List.any_map
  | _ => rfl

end Kind

/-- The place, among other elements, of the element with the name of the one at a place. A place
without an element stays. -/
def renumbering (elements image : List Element) (id : Nat) : Nat :=
  (elements[id]?.bind fun element => elementIndex? image element.name).getD id

section

variable {elements image : List Element}

/-- Where an element stands, its kind is found. -/
theorem kindOf?_of_getElem? {id : Nat} {element : Element} (found : elements[id]? = some element) :
    kindOf? elements id = some element.kind := by
  rw [kindOf?, found, Option.map_some]

/-- A place without an element stays. -/
theorem renumbering_of_getElem?_eq_none {id : Nat} (absent : elements[id]? = none) :
    renumbering elements image id = id := by
  rw [renumbering, absent]
  rfl

/-- Where an element is brought there is one with its name. -/
theorem exists_getElem?_renumbering
    (names : (elements.map (·.name)).Perm (image.map (·.name))) {id : Nat} {element : Element}
    (found : elements[id]? = some element) :
    elementIndex? image element.name = some (renumbering elements image id) ∧
      ∃ other, image[renumbering elements image id]? = some other ∧ other.name = element.name := by
  have listed : element.name ∈ image.map (·.name) :=
    names.subset (List.mem_map_of_mem (List.mem_of_getElem? found))
  cases search : elementIndex? image element.name with
  | none =>
    obtain ⟨other, member, same⟩ := List.mem_map.1 listed
    exact absurd same (elementIndex?_eq_none_iff.1 search other member)
  | some place =>
    have brought : renumbering elements image id = place := by
      rw [renumbering, found, Option.bind_some, search, Option.getD_some]
    rw [brought]
    exact ⟨rfl, exists_of_elementIndex? search⟩

/-- A name leads to where the place that it led to is brought. -/
theorem elementIndex?_renumbering (names : (elements.map (·.name)).Perm (image.map (·.name)))
    (name : String) :
    elementIndex? image name = (elementIndex? elements name).map (renumbering elements image) := by
  cases search : elementIndex? elements name with
  | none =>
    rw [Option.map_none, elementIndex?_eq_none_iff]
    intro other member same
    have listed := names.symm.subset (List.mem_map_of_mem member)
    obtain ⟨element, inside, named⟩ := List.mem_map.1 listed
    exact elementIndex?_eq_none_iff.1 search element inside (named.trans same)
  | some id =>
    obtain ⟨element, found, rfl⟩ := exists_of_elementIndex? search
    exact (exists_getElem?_renumbering names found).1

/-- No two places are brought together. -/
theorem renumbering_injective (distinct : (elements.map (·.name)).Nodup)
    (names : (elements.map (·.name)).Perm (image.map (·.name))) :
    Function.Injective (renumbering elements image) := by
  have sizes : elements.length = image.length := by simpa using names.length_eq
  have inside : ∀ id element, elements[id]? = some element →
      renumbering elements image id < elements.length := by
    intro id element found
    obtain ⟨-, other, stands, -⟩ := exists_getElem?_renumbering names found
    rw [sizes]
    exact (List.getElem?_eq_some_iff.1 stands).1
  intro left right together
  cases here : elements[left]? with
  | none =>
    rw [renumbering_of_getElem?_eq_none here] at together
    cases there : elements[right]? with
    | none => rwa [renumbering_of_getElem?_eq_none there] at together
    | some element =>
      have within := inside right element there
      have beyond := List.getElem?_eq_none_iff.1 here
      omega
  | some element =>
    cases there : elements[right]? with
    | none =>
      rw [renumbering_of_getElem?_eq_none there] at together
      have within := inside left element here
      have beyond := List.getElem?_eq_none_iff.1 there
      omega
    | some other =>
      obtain ⟨-, twin, stands, named⟩ := exists_getElem?_renumbering names here
      obtain ⟨-, second, standing, naming⟩ := exists_getElem?_renumbering names there
      rw [together] at stands
      obtain rfl := Option.some.inj (stands.symm.trans standing)
      exact eq_of_name_eq distinct here there (named.symm.trans naming)

end

/-- Whether no derived name is asked for with two shapes. -/
def Request.Settled (ledger : List Request) : Prop :=
  ∀ left ∈ ledger, ∀ right ∈ ledger,
    left.explicit = false → right.explicit = false → left.name = right.name →
      left.shape = right.shape

namespace Lowering

variable {case : CasePolicy} {left right : Lowering} {ledger : List Request}

/-- Where no two requests clash, requests for one name that are both given or both derived ask for
one shape, if no derived name is asked for with two. -/
theorem Records.shape_eq (records : Records case left ledger) (settled : Request.Settled ledger)
    {first second : Request} (here : first ∈ ledger) (there : second ∈ ledger)
    (marks : first.explicit = second.explicit) (names : first.name = second.name) :
    first.shape = second.shape := by
  cases given : first.explicit with
  | false => exact settled first here second there given (marks.symm.trans given) names
  | true =>
    by_cases one : first = second
    · rw [one]
    · exact absurd ⟨names, Or.inl given⟩ (records.apart.forall here there one)

/-- Elements that answer the same requests have the same names. -/
theorem Records.names_perm (records : Records case left ledger)
    (others : Records case right ledger) :
    (left.elements.map (·.name)).Perm (right.elements.map (·.name)) := by
  refine (List.perm_ext_iff_of_nodup records.distinct others.distinct).2 fun name => ?_
  rw [List.mem_map, List.mem_map, records.exists_name_iff, others.exists_name_iff]

/-- Elements that answer the same requests under one name have one mark and one shape. -/
theorem Records.twins (records : Records case left ledger) (others : Records case right ledger)
    (settled : Request.Settled ledger) {element other : Element}
    (member : element ∈ left.elements) (listed : other ∈ right.elements)
    (names : other.name = element.name) :
    other.explicit = element.explicit ∧
      other.kind.shape (elementName right.elements) =
        element.kind.shape (elementName left.elements) := by
  obtain ⟨first, here, firstName, firstMark, firstShape⟩ := records.asked element member
  obtain ⟨second, there, secondName, secondMark, secondShape⟩ := others.asked other listed
  obtain ⟨twin, inside, twinName, twinMark⟩ := others.answered first here
  have one : twin = other := List.inj_on_of_nodup_map others.distinct inside listed
    (twinName.trans (firstName.trans names.symm))
  rw [one] at twinMark
  have marks : other.explicit = element.explicit := twinMark.trans firstMark
  refine ⟨marks, ?_⟩
  rw [← secondShape, ← firstShape]
  exact records.shape_eq settled there here (secondMark.trans (marks.trans firstMark.symm))
    (secondName.trans (names.trans firstName.symm))

/-- Elements that answer the same requests are the same but for the places of children. -/
theorem Records.brought (records : Records case left ledger) (others : Records case right ledger)
    (settled : Request.Settled ledger) {id : Nat} {element : Element}
    (found : left.elements[id]? = some element) :
    ∃ other, right.elements[renumbering left.elements right.elements id]? = some other ∧
      other.name = element.name ∧ other.explicit = element.explicit ∧
      other.kind = element.kind.renumber (renumbering left.elements right.elements) := by
  have names := records.names_perm others
  obtain ⟨-, other, stands, named⟩ := exists_getElem?_renumbering names found
  obtain ⟨marks, shapes⟩ := records.twins others settled (List.mem_of_getElem? found)
    (List.mem_of_getElem? stands) named
  have here := kindOf?_of_getElem? found
  have there := kindOf?_of_getElem? stands
  refine ⟨other, stands, named, marks, Kind.eq_renumber (records.grounded.admissible _ _ here)
    (others.grounded.admissible _ _ there) shapes fun child member place inside same => ?_⟩
  -- A child stands before its parent, so it has an element, and the other child has its name.
  have before := Nat.lt_trans (records.grounded.child_lt here member) (lt_length_of_kindOf? here)
  have earlier := Nat.lt_trans (others.grounded.child_lt there inside) (lt_length_of_kindOf? there)
  have childFound := List.getElem?_eq_getElem before
  have placeFound := List.getElem?_eq_getElem earlier
  obtain ⟨-, twin, standing, naming⟩ := exists_getElem?_renumbering names childFound
  rw [elementName_of_getElem? childFound, elementName_of_getElem? placeFound] at same
  exact eq_of_name_eq others.distinct placeFound standing (same.trans naming.symm)

/-- Elements that answer the same requests have an empty match when their twins have one. -/
theorem Records.elementNullable_renumbering (records : Records case left ledger)
    (others : Records case right ledger) (settled : Request.Settled ledger) {id : Nat}
    (inside : id < left.elements.length) :
    elementNullable right.elements (renumbering left.elements right.elements id) =
      elementNullable left.elements id := by
  induction id using Nat.strongRecOn with
  | ind id hypothesis =>
    have found := List.getElem?_eq_getElem inside
    obtain ⟨other, stands, -, -, kind⟩ := records.brought others settled found
    have here := kindOf?_of_getElem? found
    have there := kindOf?_of_getElem? stands
    rw [records.grounded.nullable _ _ here, others.grounded.nullable _ _ there, kind,
      Kind.nullable_renumber]
    refine Kind.nullable_congr _ _ _ fun child member => ?_
    have before := records.grounded.child_lt here member
    exact hypothesis child before (Nat.lt_trans before inside)

/-- Elements that answer the same requests are the same, renumbered. -/
theorem Records.renumbered (records : Records case left ledger)
    (others : Records case right ledger) (settled : Request.Settled ledger) :
    Renumbered (renumbering left.elements right.elements) left.elements right.elements := by
  have names := records.names_perm others
  have sizes : right.elements.length = left.elements.length := by
    simpa using names.length_eq.symm
  refine ⟨renumbering_injective records.distinct names, sizes, fun id => ?_⟩
  cases found : left.elements[id]? with
  | none =>
    rw [renumbering_of_getElem?_eq_none found, Option.map_none, List.getElem?_eq_none_iff, sizes]
    exact List.getElem?_eq_none_iff.1 found
  | some element =>
    obtain ⟨other, stands, named, marks, kind⟩ := records.brought others settled found
    have nullable := records.elementNullable_renumbering others settled
      (List.getElem?_eq_some_iff.1 found).1
    rw [elementNullable, elementNullable, stands, found, Option.map_some, Option.map_some,
      Option.getD_some, Option.getD_some] at nullable
    rw [stands, Option.map_some, Element.renumber, ← named, ← marks, ← kind, ← nullable]

end Lowering

end Utterance
