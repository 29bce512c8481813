import Scholia.Proofs.Source.Rendering

/-! # The sites of declarations

The site of a declaration is all of it but the place for its comment. Whatever is written into
these places, the declarations of a document stand where they did.
-/

namespace Scholia

/-- A declaration without the place for its comment. -/
def Declaration.site (d : Declaration) : Declaration :=
  { d with slot := {} }

namespace Document

/-- The declarations of a document without the places for their comments. -/
def sites (document : Document) : Document :=
  { document with declarations := document.declarations.map Declaration.site }

variable {document other : Document} {index place : Nat} {unit changed : Declaration}

theorem getElem?_put (here : document.declarations[index]? = some unit) :
    (document.modify index fun _ => changed).declarations[index]? = some changed := by
  rw [modify, List.getElem?_modify_eq, here]
  rfl

theorem getElem?_put_of_ne (differ : index ≠ place) :
    (document.modify index fun _ => changed).declarations[place]? =
      document.declarations[place]? :=
  List.getElem?_modify_ne _ _ differ

theorem getElem?_of_sites (same : other.sites = document.sites) (index : Nat) :
    other.declarations[index]?.map Declaration.site =
      document.declarations[index]?.map Declaration.site := by
  have declarations : other.declarations.map Declaration.site =
      document.declarations.map Declaration.site := congrArg (·.declarations) same
  rw [← List.getElem?_map, declarations, List.getElem?_map]

/-- A declaration that is put where it stands changes no site. -/
theorem sites_put (here : document.declarations[index]? = some unit)
    (same : changed.site = unit.site) :
    (document.modify index fun _ => changed).sites = document.sites := by
  have declarations : (document.modify index fun _ => changed).declarations.map Declaration.site =
      document.declarations.map Declaration.site := by
    refine List.ext_getElem? fun place => ?_
    rw [List.getElem?_map, List.getElem?_map]
    rcases eq_or_ne index place with rfl | differ
    · rw [getElem?_put here, here, Option.map_some, Option.map_some, same]
    · rw [getElem?_put_of_ne differ]
  rw [sites, sites, declarations]
  rfl

/-! ## What sites tell -/

variable {text : Text} {d : Declaration}

theorem source_of_sites (same : other.sites = document.sites) : other.source = document.source :=
  congrArg (·.source) same

theorem exists_of_sites (same : other.sites = document.sites) (member : d ∈ other.declarations) :
    ∃ old ∈ document.declarations, Origin old d := by
  have declarations : other.declarations.map Declaration.site =
      document.declarations.map Declaration.site := congrArg (·.declarations) same
  have there : d.site ∈ document.declarations.map Declaration.site :=
    declarations ▸ List.mem_map_of_mem member
  obtain ⟨old, inside, site⟩ := List.mem_map.mp there
  refine ⟨old, inside, ?_, ?_, ?_⟩
  · exact (congrArg Declaration.anchor site).symm
  · exact (congrArg Declaration.indent site).symm
  · exact (congrArg Declaration.comment site).symm

/-- Declarations on the sites of sound ones are sound. -/
theorem Sound.of_sites (sound : document.Sound text) (same : other.sites = document.sites) :
    other.Sound text where
  source := (source_of_sites same).trans sound.source
  settled := sound.settled.of_origins (source_of_sites same) fun _ => exists_of_sites same

end Document

end Scholia
