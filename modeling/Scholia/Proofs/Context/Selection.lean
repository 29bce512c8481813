import Scholia.Context.Selection
import Scholia.Proofs.Source.Order

/-! # What is selected

The positions to document are those of the declarations that pass the rules, in the order of the
source. A signature and its interface are never both among them, and of a signature that passes the
rules by itself and its interface exactly one is.
-/

namespace Scholia.Selection

/-- The rules of selection, in the order in which they count. -/
structure Passes (settings : DocSettings) (document : Document) (d : Declaration) : Prop where
  included : isExcluded settings d = false
  worthy : isPriority settings d = true ∨
    includesKind settings d = true ∧ passesInitializer d = true ∧
      passesPrivacy settings d = true ∧
      ∀ place, d.kind.isSignature = true → d.parent = some place →
        isDocumentableAt settings document place = false

/-- What is selected in a document whose declarations have spans of their own. -/
structure Exact (settings : DocSettings) (document : Document) : Prop where
  ascending : (units settings document).Pairwise (· < ·)
  spans : ((units settings document).filterMap fun index =>
    document.declarations[index]?.map (·.span)).Nodup
  mem_iff : ∀ index, index ∈ units settings document ↔
    ∃ d, document.declarations[index]? = some d ∧ Passes settings document d
  /-- A declaration counts where it is listed first. -/
  listed : ∀ listing, unitsAmong settings document listing =
    (listing.filter (units settings document).contains).eraseDups
  relisted : ∀ again,
    unitsAmong settings document (List.range document.declarations.length ++ again) =
      units settings document
  /-- An interface and a member of it are never both selected. -/
  apart : ∀ (index place : Nat) (d owner : Declaration),
    document.declarations[index]? = some d → d.parent = some place →
    document.declarations[place]? = some owner → owner.kind = .interface →
    ¬(index ∈ units settings document ∧ place ∈ units settings document)
  /-- A signature that passes the rules for itself is selected, or its interface is. -/
  either : ∀ (index : Nat) (d : Declaration), document.declarations[index]? = some d →
    d.kind.isSignature = true → isExcluded settings d = false →
    includesKind settings d = true → passesPrivacy settings d = true →
    ∃ place owner, d.parent = some place ∧ document.declarations[place]? = some owner ∧
      owner.kind = .interface ∧
      (index ∈ units settings document ↔ place ∉ units settings document)

/-- What selection needs of a document: spans tell positions apart, and the signatures are the
    members of interfaces, which are not exported by themselves. -/
structure Layered (document : Document) : Prop where
  distinct : ∀ {first second : Nat} {a b : Declaration}, document.declarations[first]? = some a →
    document.declarations[second]? = some b → a.span = b.span → first = second
  closed : ∀ {index : Nat} {d : Declaration}, document.declarations[index]? = some d →
    d.kind.isSignature = true → d.exported = some false
  owned : ∀ {index : Nat} {d : Declaration}, document.declarations[index]? = some d →
    d.kind.isSignature = true → ∃ place owner, d.parent = some place ∧
      document.declarations[place]? = some owner ∧ owner.kind = .interface
  member : ∀ {index place : Nat} {d owner : Declaration},
    document.declarations[index]? = some d → d.parent = some place →
    document.declarations[place]? = some owner → owner.kind = .interface →
    d.kind.isSignature = true

variable {settings : DocSettings} {document : Document} {d : Declaration}

/-! ## One declaration -/

theorem isDocumentable_of_plain (plain : d.kind.isSignature = false)
    (parent : Option Declaration) : isDocumentable settings d parent = passesAlone settings d := by
  simp [isDocumentable, plain]

theorem isPriority_of_closed (settings : DocSettings) (closed : d.exported = some false) :
    isPriority settings d = false := by
  simp [isPriority, isExported, closed]

theorem passesInitializer_of_signature (isSignature : d.kind.isSignature = true) :
    passesInitializer d = true := by
  unfold passesInitializer
  cases kind : d.kind <;> first | rfl | (rw [kind] at isSignature; cases isSignature)

theorem passesAlone_iff : passesAlone settings d = true ↔
    isExcluded settings d = false ∧ (isPriority settings d = true ∨
      includesKind settings d = true ∧ passesInitializer d = true ∧
        passesPrivacy settings d = true) := by
  simp [passesAlone, and_assoc]

theorem isDocumentableAt_of_getElem? {index : Nat}
    (here : document.declarations[index]? = some d) :
    isDocumentableAt settings document index =
      isDocumentable settings d (document.owner? d) := by
  rw [isDocumentableAt, here]
  rfl

theorem isDocumentableAt_interface {place : Nat} (there : document.declarations[place]? = some d)
    (kind : d.kind = .interface) :
    isDocumentableAt settings document place = passesAlone settings d := by
  rw [isDocumentableAt_of_getElem? there]
  apply isDocumentable_of_plain
  rw [kind]
  rfl

/-- A member of an interface is selected by its own rules unless the interface is. -/
theorem Layered.isDocumentableAt_member (layered : Layered document) {index place : Nat}
    {owner : Declaration} (here : document.declarations[index]? = some d)
    (own : d.parent = some place) (there : document.declarations[place]? = some owner)
    (kind : owner.kind = .interface) : isDocumentableAt settings document index =
      (passesAlone settings d && !isDocumentableAt settings document place) := by
  have isSignature := layered.member here own there kind
  have ordinary := isPriority_of_closed settings (layered.closed here isSignature)
  rw [isDocumentableAt_interface there kind, isDocumentableAt_of_getElem? here]
  simp [isDocumentable, Document.owner?, own, there, isSignature, ordinary]

theorem Layered.isDocumentableAt_iff (layered : Layered document) (index : Nat) :
    isDocumentableAt settings document index = true ↔
      ∃ d, document.declarations[index]? = some d ∧ Passes settings document d := by
  cases here : document.declarations[index]? with
  | none => simp [isDocumentableAt, here]
  | some d =>
      simp only [Option.some.injEq, exists_eq_left']
      cases isSignature : d.kind.isSignature with
      | false =>
          rw [isDocumentableAt_of_getElem? here, isDocumentable_of_plain isSignature,
            passesAlone_iff]
          constructor
          · intro ⟨included, worthy⟩
            exact ⟨included, worthy.imp_right (by simpa [isSignature] using ·)⟩
          · intro passes
            exact ⟨passes.included, passes.worthy.imp_right (by simpa [isSignature] using ·)⟩
      | true =>
          obtain ⟨place, owner, own, there, kind⟩ := layered.owned here isSignature
          have ordinary := isPriority_of_closed settings (layered.closed here isSignature)
          rw [layered.isDocumentableAt_member here own there kind, Bool.and_eq_true,
            passesAlone_iff, Bool.not_eq_true']
          constructor
          · intro ⟨⟨included, worthy⟩, alone⟩
            refine ⟨included, worthy.imp_right ?_⟩
            intro ⟨includes, initial, privacy⟩
            refine ⟨includes, initial, privacy, ?_⟩
            intro other _ own'
            rw [own] at own'
            cases own'
            exact alone
          · intro passes
            have worthy := passes.worthy.resolve_left (by simp [ordinary])
            exact ⟨⟨passes.included, .inr ⟨worthy.1, worthy.2.1, worthy.2.2.1⟩⟩,
              worthy.2.2.2 place isSignature own⟩

/-! ## The listing -/

/-- The declaration at a position has a span that has not been seen. -/
def unseen (document : Document) (seen : List (Nat × Nat)) (index : Nat) : Bool :=
  document.declarations[index]?.any fun d => !seen.contains d.span

theorem Layered.unseen_cons (layered : Layered document) {index : Nat}
    (here : document.declarations[index]? = some d) (seen : List (Nat × Nat)) (other : Nat) :
    unseen document (d.span :: seen) other = (unseen document seen other && other != index) := by
  unfold unseen
  cases there : document.declarations[other]? with
  | none => rfl
  | some e =>
      have tells : (e.span == d.span) = (other == index) := by
        rw [Bool.eq_iff_iff, beq_iff_eq, beq_iff_eq]
        constructor
        · intro same
          exact layered.distinct there here same
        · rintro rfl
          rw [here] at there
          cases there
          rfl
      rw [Option.any_some, Option.any_some, List.contains_cons, tells, Bool.not_or, Bool.and_comm]
      rfl

/-- Of the positions listed those stay that are documented, each where it is listed first. -/
theorem Layered.filter_firstOfSpan (layered : Layered document) (seen : List (Nat × Nat))
    (listing : List Nat) :
    (firstOfSpan document seen listing).filter (isDocumentableAt settings document) =
      (listing.filter fun index =>
        isDocumentableAt settings document index && unseen document seen index).eraseDups := by
  induction listing generalizing seen with
  | nil => rfl
  | cons index rest ih =>
      rw [firstOfSpan, List.filter_cons]
      cases here : document.declarations[index]? with
      | none =>
          simp only [unseen, here, Option.any_none, Bool.and_false, Bool.false_eq_true, if_false]
          exact ih seen
      | some d =>
          have fresh : unseen document seen index = !seen.contains d.span := by
            simp [unseen, here]
          have later := layered.unseen_cons here seen
          simp only [fresh]
          cases known : seen.contains d.span with
          | true =>
              simp only [Bool.not_true, Bool.and_false, Bool.false_eq_true, if_true, if_false]
              exact ih seen
          | false =>
              simp only [Bool.not_false, Bool.and_true, Bool.false_eq_true, if_false]
              rw [List.filter_cons, ih]
              cases documented : isDocumentableAt settings document index with
              | true =>
                  simp only [if_true]
                  rw [List.eraseDups_cons, List.filter_filter]
                  congr 3
                  funext other
                  rw [later, bne]
                  ac_rfl
              | false =>
                  simp only [Bool.false_eq_true, if_false]
                  apply congrArg
                  apply List.filter_congr
                  intro other _
                  rw [later]
                  cases same : other == index with
                  | true =>
                      rw [beq_iff_eq.mp same, documented]
                      rfl
                  | false =>
                      rw [bne, same, Bool.not_false, Bool.and_true]

theorem eraseDups_of_nodup {listing : List Nat} (distinct : listing.Nodup) :
    listing.eraseDups = listing := by
  induction listing with
  | nil => rfl
  | cons index rest ih =>
      obtain ⟨fresh, distinct⟩ := List.nodup_cons.mp distinct
      have others : rest.filter (fun other => !other == index) = rest := by
        apply List.filter_eq_self.mpr
        intro other member
        have differ : other ≠ index := by
          rintro rfl
          exact fresh member
        simpa using differ
      rw [List.eraseDups_cons, others, ih distinct]

/-- What is listed again changes nothing. -/
theorem eraseDups_append_of_subset {first second : List Nat} (distinct : first.Nodup)
    (known : ∀ index ∈ second, index ∈ first) : (first ++ second).eraseDups = first := by
  have nothing : second.removeAll first = [] := by
    apply List.filter_eq_nil_iff.mpr
    intro index member
    simpa using known index member
  rw [List.eraseDups_append, nothing, eraseDups_of_nodup distinct, List.eraseDups_nil,
    List.append_nil]

theorem Layered.unitsAmong_eq (layered : Layered document) (listing : List Nat) :
    unitsAmong settings document listing =
      (listing.filter (isDocumentableAt settings document)).eraseDups := by
  rw [unitsAmong, layered.filter_firstOfSpan]
  congr 2
  funext index
  unfold isDocumentableAt unseen
  cases document.declarations[index]? with
  | none => rfl
  | some d => simp

theorem Layered.units_eq (layered : Layered document) :
    units settings document = (List.range document.declarations.length).filter
      (isDocumentableAt settings document) := by
  rw [units, layered.unitsAmong_eq]
  apply eraseDups_of_nodup
  exact List.nodup_range.sublist List.filter_sublist

theorem Layered.ascending (layered : Layered document) :
    (units settings document).Pairwise (· < ·) := by
  rw [layered.units_eq]
  exact List.pairwise_lt_range.sublist List.filter_sublist

theorem Layered.nodup_units (layered : Layered document) : (units settings document).Nodup :=
  layered.ascending.imp Nat.ne_of_lt

theorem Layered.nodup_spans (layered : Layered document) :
    ((units settings document).filterMap fun index =>
      document.declarations[index]?.map (·.span)).Nodup := by
  rw [List.nodup_iff_pairwise_ne, List.pairwise_filterMap]
  apply layered.nodup_units.imp
  intro first second differ span isFirst other isSecond same
  obtain ⟨a, here, rfl⟩ := Option.map_eq_some_iff.mp isFirst
  obtain ⟨b, there, rfl⟩ := Option.map_eq_some_iff.mp isSecond
  exact differ (layered.distinct here there same)

theorem Layered.mem_units (layered : Layered document) (index : Nat) :
    index ∈ units settings document ↔ isDocumentableAt settings document index = true := by
  rw [layered.units_eq, List.mem_filter, List.mem_range]
  constructor
  · intro both
    exact both.2
  · intro documented
    obtain ⟨d, here, _⟩ := (layered.isDocumentableAt_iff index).mp documented
    obtain ⟨inside, _⟩ := List.getElem?_eq_some_iff.mp here
    exact ⟨inside, documented⟩

theorem Layered.contains_units (layered : Layered document) :
    (units settings document).contains = isDocumentableAt settings document := by
  funext index
  rw [Bool.eq_iff_iff, List.contains_iff_mem, layered.mem_units]

/-! ## Two levels -/

theorem Layered.apart (layered : Layered document) {index place : Nat} {owner : Declaration}
    (here : document.declarations[index]? = some d) (own : d.parent = some place)
    (there : document.declarations[place]? = some owner) (kind : owner.kind = .interface) :
    ¬(index ∈ units settings document ∧ place ∈ units settings document) := by
  rw [layered.mem_units, layered.mem_units, layered.isDocumentableAt_member here own there kind]
  intro ⟨documented, above⟩
  rw [above, Bool.not_true, Bool.and_false] at documented
  cases documented

theorem Layered.either (layered : Layered document) {index place : Nat} {owner : Declaration}
    (here : document.declarations[index]? = some d) (own : d.parent = some place)
    (there : document.declarations[place]? = some owner) (kind : owner.kind = .interface)
    (included : isExcluded settings d = false) (includes : includesKind settings d = true)
    (privacy : passesPrivacy settings d = true) :
    index ∈ units settings document ↔ place ∉ units settings document := by
  have initial := passesInitializer_of_signature (layered.member here own there kind)
  have alone : passesAlone settings d = true :=
    passesAlone_iff.mpr ⟨included, .inr ⟨includes, initial, privacy⟩⟩
  rw [layered.mem_units, layered.mem_units, layered.isDocumentableAt_member here own there kind,
    alone]
  simp

theorem layered_of_grove {file : Walk.File} {fair : Nat → Prop} {shared : Option Anchor}
    {lower upper : Nat}
    (grove : Walk.Grove file fair shared none Walk.Free 0 lower upper document.declarations) :
    Layered document where
  distinct := by
    intro first second a b here there same
    obtain ⟨inFirst, rfl⟩ := List.getElem?_eq_some_iff.mp here
    obtain ⟨inSecond, rfl⟩ := List.getElem?_eq_some_iff.mp there
    have start : (document.declarations[first]).node.start =
        (document.declarations[second]).node.start := (Prod.mk.inj same).1
    have ascending := List.pairwise_iff_getElem.mp grove.ascending
    rcases Nat.lt_trichotomy first second with before | equal | behind
    · have order := ascending first second inFirst inSecond before
      omega
    · exact equal
    · have order := ascending second first inSecond inFirst behind
      omega
  closed := by
    intro index d here isSignature
    have member := List.mem_of_getElem? here
    apply (grove.planted d member).closed
    apply (grove.isMember_iff member).mpr
    obtain ⟨owner, own, kind⟩ := (grove.isSignature_iff member).mp isSignature
    exact ⟨owner, own, by simp [kind]⟩
  owned := by
    intro index d here isSignature
    obtain ⟨owner, own, kind⟩ :=
      (grove.isSignature_iff (List.mem_of_getElem? here)).mp isSignature
    obtain ⟨place, parent, there⟩ := Option.bind_eq_some_iff.mp own
    exact ⟨place, owner, parent, there, kind⟩
  member := by
    intro index place d owner here own there kind
    apply (grove.isSignature_iff (List.mem_of_getElem? here)).mpr
    refine ⟨owner, ?_, kind⟩
    rw [Document.owner?, own]
    exact there

/-- Selection follows its rules in every parsed document and with all settings. -/
theorem exact_of_parse {text : Text} {fair : Nat → Prop} {path : Path} {relativePath : String}
    {root : Node} (brood : Node.Brood fair root.children)
    (parsed : Document.parse path text relativePath (.ok root) = .ok document)
    (settings : DocSettings) : Exact settings document := by
  obtain ⟨file, upper, grove⟩ := Document.exists_grove_of_parse brood parsed
  have layered := layered_of_grove grove
  constructor
  · exact layered.ascending
  · exact layered.nodup_spans
  · intro index
    rw [layered.mem_units, layered.isDocumentableAt_iff]
  · intro listing
    rw [layered.contains_units, layered.unitsAmong_eq]
  · intro again
    rw [layered.unitsAmong_eq, List.filter_append, ← layered.units_eq]
    apply eraseDups_append_of_subset layered.nodup_units
    intro index member
    rw [layered.mem_units]
    exact (List.mem_filter.mp member).2
  · intro index place d owner here own there kind
    exact layered.apart here own there kind
  · intro index d here isSignature included includes privacy
    obtain ⟨place, owner, own, there, kind⟩ := layered.owned here isSignature
    exact ⟨place, owner, own, there, kind,
      layered.either here own there kind included includes privacy⟩

/-! ## An interface with a signature -/

/-- Settings that take all kinds, private declarations among them. -/
def openSettings : DocSettings :=
  { includeKinds := [], includePrivate := true }

/-- Of an interface and its signature exactly one is selected. -/
theorem exact_of_parse_interface : Node.Brood (· ≤ 36) Document.interfaceTree.children ∧
    ∃ document, Document.parse (.ofString "a.ts") Document.interfaceSource ""
        (.ok Document.interfaceTree) = .ok document ∧
      (1 ∈ units openSettings document ↔ 0 ∉ units openSettings document) := by
  obtain ⟨document, parsed⟩ : ∃ document, Document.parse (.ofString "a.ts")
      Document.interfaceSource "" (.ok Document.interfaceTree) = .ok document := ⟨_, rfl⟩
  have brood : Node.Brood (· ≤ 36) Document.interfaceTree.children :=
    Document.brood_interfaceTree fun _ inside => inside
  refine ⟨brood, document, parsed, ?_⟩
  have exact := exact_of_parse brood parsed openSettings
  have kinds (index : Nat) : document.declarations[index]?.map (·.kind) =
      [Kind.interface, Kind.propertySignature][index]? := by
    cases parsed
    rw [← List.getElem?_map]
    exact congrArg (·[index]?) (Document.kinds_interfaceTree _ _)
  obtain ⟨d, here, kind⟩ := Option.map_eq_some_iff.mp (kinds 1)
  have isSignature : d.kind.isSignature = true := by
    rw [kind]
    rfl
  have included : isExcluded openSettings d = false := by
    rw [isExcluded, kind]
    decide
  obtain ⟨place, owner, own, there, above, one⟩ :=
    exact.either 1 d here isSignature included rfl rfl
  have first := kinds place
  rw [there, Option.map_some, above] at first
  match place with
  | 0 => exact one
  | 1 => cases first
  | _ + 2 => cases first

end Scholia.Selection
