import Mathlib.Data.List.MinMax
import Mathlib.Data.List.Nodup
import Scholia.Context.Extractor

/-! # Packages in any order

The packages of a workspace are given in some order. A file belongs to the package in the deepest
directory around it, and directories that differ leave only one such package, wherever it is
listed. A module specifier belongs to the first package that it names: where the package of the
file and another one are both named, because one name continues the other, the order decides
whether the import is shown. Nothing else of a bundle depends on the order.
-/

namespace Scholia

namespace Package

/-- The resolved path lies in the directory of the package. -/
def holds (path : List String) (package : Package) : Bool :=
  Path.isWithin package.path.resolve path

/-- How far the directory of the package is below the root. -/
def depth (package : Package) : Nat :=
  package.path.resolve.length

/-- The module specifier is the name of the package, or continues it behind a slash. -/
def isNamedBy (specifier : String) (package : Package) : Bool :=
  specifier == package.name || Text.startsWith (package.name ++ "/").toList specifier.toList

theorem isNamedBy_of_name_eq {one two : Package} {specifier : String} (same : one.name = two.name) :
    one.isNamedBy specifier = two.isNamedBy specifier := by
  rw [isNamedBy, isNamedBy, same]

/-- The package holds the path, and all others that do are less deep. -/
structure Owns (packages : List Package) (path : List String) (package : Package) : Prop where
  member : package ∈ packages
  holds : package.holds path = true
  deepest : ∀ other ∈ packages, other.holds path = true → other ≠ package →
    other.depth < package.depth

/-- The packages are in different directories. -/
def Apart (packages : List Package) : Prop :=
  (packages.map fun package => package.path.resolve).Nodup

instance (packages : List Package) : Decidable (Apart packages) :=
  inferInstanceAs (Decidable (packages.map fun package => package.path.resolve).Nodup)

theorem Apart.perm {packages others : List Package} (apart : Apart packages)
    (perm : packages.Perm others) : Apart others :=
  (perm.map _).nodup apart

variable {packages : List Package} {path : List String}

/-- Directories around the same path are equal if they are equally deep. -/
theorem Apart.eq_of_depth (apart : Apart packages) {one two : Package} (here : one ∈ packages)
    (there : two ∈ packages) (holds : one.holds path = true) (also : two.holds path = true)
    (depths : one.depth = two.depth) : one = two := by
  refine List.inj_on_of_nodup_map apart here there ?_
  have below := List.isPrefixOf_iff_prefix.mp holds
  have beside := List.isPrefixOf_iff_prefix.mp also
  exact (List.prefix_of_prefix_length_le below beside depths.le).eq_of_length depths

theorem Owns.unique {one two : Package} (first : Owns packages path one)
    (second : Owns packages path two) : one = two := by
  by_contra differ
  have less := first.deepest two second.member second.holds (Ne.symm differ)
  have more := second.deepest one first.member first.holds differ
  omega

theorem Owns.perm {others : List Package} {package : Package} (owns : Owns packages path package)
    (perm : packages.Perm others) : Owns others path package where
  member := perm.mem_iff.mp owns.member
  holds := owns.holds
  deepest other listed := owns.deepest other (perm.mem_iff.mpr listed)

end Package

namespace Extractor

open Package

/-! ## The owner of a path -/

variable {packages others : List Package} {path : List String}

theorem owner_eq_argmax (packages : List Package) (path : List String) :
    owner packages path = (packages.filter (Package.holds path)).argmax depth := by
  rw [owner, List.argmax, List.foldl_filter]
  congr 1
  funext best package
  by_cases inside : package.holds path = true
  · rw [if_pos inside]
    rw [Package.holds] at inside
    cases best with
    | none => simp [List.argAux, inside]
    | some best =>
        by_cases deeper : best.path.resolve.length < package.path.resolve.length
        · simp [List.argAux, inside, depth, deeper]
        · simp [List.argAux, inside, depth, deeper]
  · rw [if_neg inside]
    rw [Package.holds] at inside
    simp [inside]

theorem owner_eq_none_iff :
    owner packages path = none ↔ ∀ package ∈ packages, package.holds path = false := by
  rw [owner_eq_argmax, List.argmax_eq_none, List.filter_eq_nil_iff]
  simp

theorem owns_of_owner (apart : Apart packages) {package : Package}
    (found : owner packages path = some package) : Owns packages path package := by
  rw [owner_eq_argmax] at found
  obtain ⟨listed, holds⟩ := List.mem_filter.mp (List.argmax_mem found)
  refine ⟨listed, holds, fun other member inside differ => ?_⟩
  refine lt_of_le_of_ne (List.le_of_mem_argmax (List.mem_filter.mpr ⟨member, inside⟩) found) ?_
  exact fun depths => differ (apart.eq_of_depth member listed inside holds depths)

theorem owner_eq_some_iff (apart : Apart packages) {package : Package} :
    owner packages path = some package ↔ Owns packages path package := by
  constructor
  · exact owns_of_owner apart
  · intro owns
    cases found : owner packages path with
    | none =>
        have outside := owner_eq_none_iff.mp found package owns.member
        rw [owns.holds] at outside
        cases outside
    | some other => rw [(owns_of_owner apart found).unique owns]

theorem owner_perm (apart : Apart packages) (perm : packages.Perm others) :
    owner others path = owner packages path := by
  ext package
  rw [owner_eq_some_iff apart, owner_eq_some_iff (apart.perm perm)]
  exact ⟨fun owns => owns.perm perm.symm, fun owns => owns.perm perm⟩

/-! ## Imports -/

/-- The import names the package of the file and another one. -/
def Disputed (packages : List Package) (own : Option Package) (statement : Import) : Prop :=
  Text.startsWith ['.'] statement.source.toList = false ∧
    ∃ mine ∈ packages, own = some mine ∧ mine.isNamedBy statement.source = true ∧
      ∃ other ∈ packages, other.isNamedBy statement.source = true ∧ other.name ≠ mine.name

instance (packages : List Package) (own : Option Package) (statement : Import) :
    Decidable (Disputed packages own statement) :=
  inferInstanceAs (Decidable (_ ∧ _))

theorem packageNamed?_eq (packages : List Package) (specifier : String) :
    packageNamed? packages specifier = packages.find? (isNamedBy specifier) :=
  rfl

section

variable {directory : Path} {own : Option Package} {statement : Import}

theorem isRelevant_relative (relative : Text.startsWith ['.'] statement.source.toList = true)
    (apart : Apart packages) (perm : packages.Perm others) :
    isRelevant others directory own statement = isRelevant packages directory own statement := by
  unfold isRelevant
  rw [if_pos relative, if_pos relative, owner_perm apart perm]

theorem isRelevant_bare (bare : Text.startsWith ['.'] statement.source.toList = false) :
    isRelevant packages directory own statement =
      (packages.find? (isNamedBy statement.source)).all
        fun target => own.all fun mine => mine.name != target.name := by
  unfold isRelevant
  rw [if_neg (by simp [bare]), packageNamed?_eq]

/-- An import that does not name the package of the file is shown. -/
theorem isRelevant_of_unnamed (bare : Text.startsWith ['.'] statement.source.toList = false)
    (unnamed : ∀ mine, own = some mine → mine.isNamedBy statement.source = false) :
    isRelevant packages directory own statement = true := by
  rw [isRelevant_bare bare, Option.all_eq_true]
  intro target found
  rw [Option.all_eq_true]
  intro mine owned
  rw [bne_iff_ne]
  intro same
  have named := unnamed mine owned
  rw [isNamedBy_of_name_eq same, List.find?_some found] at named
  cases named

/-- An import that names the package of the file is shown if the first package that it names is
    another one. -/
theorem isRelevant_of_named (bare : Text.startsWith ['.'] statement.source.toList = false)
    {mine : Package} (owned : own = some mine) :
    isRelevant packages directory own statement = true ↔
      ∀ target, packages.find? (isNamedBy statement.source) = some target →
        mine.name ≠ target.name := by
  rw [isRelevant_bare bare, Option.all_eq_true, owned]
  simp

/-- If all packages that an import names have the name of the package of the file, it is left
    out. -/
theorem isRelevant_of_sole (bare : Text.startsWith ['.'] statement.source.toList = false)
    {mine : Package} (owned : own = some mine) (listed : mine ∈ packages)
    (named : mine.isNamedBy statement.source = true)
    (sole : ∀ other ∈ packages, other.isNamedBy statement.source = true → mine.name = other.name) :
    isRelevant packages directory own statement = false := by
  rw [← Bool.not_eq_true, isRelevant_of_named bare owned]
  intro differs
  obtain ⟨target, found⟩ := Option.isSome_iff_exists.mp
    (List.find?_isSome.mpr ⟨mine, listed, named⟩)
  exact differs target found
    (sole target (List.mem_of_find?_eq_some found) (List.find?_some found))

theorem isRelevant_mine_first (bare : Text.startsWith ['.'] statement.source.toList = false)
    {mine : Package} (owned : own = some mine) (named : mine.isNamedBy statement.source = true) :
    isRelevant (mine :: packages) directory own statement = false := by
  rw [← Bool.not_eq_true, isRelevant_of_named bare owned]
  exact fun differs => differs mine (List.find?_cons_of_pos named) rfl

theorem isRelevant_other_first (bare : Text.startsWith ['.'] statement.source.toList = false)
    {mine other : Package} (owned : own = some mine)
    (named : other.isNamedBy statement.source = true) (differ : other.name ≠ mine.name) :
    isRelevant (other :: packages) directory own statement = true := by
  rw [isRelevant_of_named bare owned, List.find?_cons_of_pos named]
  rintro _ ⟨⟩
  exact differ.symm

/-- The order of the packages does not matter to an import that is not disputed. -/
theorem isRelevant_perm (undisputed : ¬Disputed packages own statement)
    (member : ∀ mine, own = some mine → mine ∈ packages) (apart : Apart packages)
    (perm : packages.Perm others) :
    isRelevant others directory own statement = isRelevant packages directory own statement := by
  by_cases relative : Text.startsWith ['.'] statement.source.toList = true
  · exact isRelevant_relative relative apart perm
  have bare := Bool.eq_false_iff.mpr relative
  by_cases named : ∃ mine, own = some mine ∧ mine.isNamedBy statement.source = true
  · obtain ⟨mine, owned, named⟩ := named
    have listed := member mine owned
    have sole : ∀ other ∈ packages, other.isNamedBy statement.source = true →
        mine.name = other.name := by
      intro other there also
      by_contra differ
      exact undisputed ⟨bare, mine, listed, owned, named, other, there, also, Ne.symm differ⟩
    rw [isRelevant_of_sole bare owned listed named sole]
    exact isRelevant_of_sole bare owned (perm.mem_iff.mp listed) named
      fun other there => sole other (perm.mem_iff.mpr there)
  · have unnamed : ∀ mine, own = some mine → mine.isNamedBy statement.source = false :=
      fun mine owned => Bool.eq_false_iff.mpr fun names => named ⟨mine, owned, names⟩
    rw [isRelevant_of_unnamed bare unnamed, isRelevant_of_unnamed bare unnamed]

end

theorem exists_perm_cons {package : Package} (listed : package ∈ packages) :
    ∃ rest, packages.Perm (package :: rest) := by
  obtain ⟨front, back, rfl⟩ := List.append_of_mem listed
  exact ⟨front ++ back, List.perm_middle⟩

/-- Where an import is disputed, there are two orders of the packages that differ in the imports
    they show: one with the package of the file in front, and one with the other package there. -/
theorem exists_orders (directory : Path) {own : Option Package} {imports : List Import}
    {statement : Import} (among : statement ∈ imports) (disputed : Disputed packages own statement)
    (apart : Apart packages) : ∃ first second, packages.Perm first ∧ packages.Perm second ∧
      relevantImports first directory own imports ≠
        relevantImports second directory own imports := by
  obtain ⟨bare, mine, here, owned, named, other, there, also, differ⟩ := disputed
  obtain ⟨rest, front⟩ := exists_perm_cons here
  obtain ⟨others, back⟩ := exists_perm_cons there
  refine ⟨mine :: rest, other :: others, front, back, fun same => ?_⟩
  -- the first order shows no import that the second one leaves out
  have more : ∀ any, isRelevant (mine :: rest) directory own any = true →
      isRelevant (other :: others) directory own any = true := by
    intro any shown
    by_cases relative : Text.startsWith ['.'] any.source.toList = true
    · rwa [isRelevant_relative relative (apart.perm front) (front.symm.trans back)]
    have bare := Bool.eq_false_iff.mpr relative
    refine isRelevant_of_unnamed bare fun package owned' => Bool.eq_false_iff.mpr fun names => ?_
    cases owned.symm.trans owned'
    rw [isRelevant_mine_first bare owned names] at shown
    cases shown
  have lengths := congrArg List.length same
  simp only [relevantImports, List.length_map] at lengths
  have equal := (List.monotone_filter_right imports more).eq_of_length lengths
  have shown : statement ∈ imports.filter (isRelevant (other :: others) directory own) :=
    List.mem_filter.mpr ⟨among, isRelevant_other_first bare owned also differ⟩
  rw [← equal] at shown
  have left := (List.mem_filter.mp shown).2
  rw [isRelevant_mine_first bare owned named] at left
  cases left

/-! ## Bundles -/

/-- Nothing else of a bundle depends on the packages than the owner of the file and its imports. -/
theorem bundle_eq_of_packages {extractor : Extractor} {document : Document} {packages : List Package}
    (d : Declaration)
    (owners : owner packages (Path.ofString document.path).resolve =
      owner extractor.packages (Path.ofString document.path).resolve)
    (imports : relevantImports packages (Path.ofString document.path).parent
        (extractor.bundle document d).package document.imports =
      (extractor.bundle document d).imports) :
    { extractor with packages }.bundle document d = extractor.bundle document d := by
  unfold bundle at imports ⊢
  simp only [owners, imports]
  rfl

/-- Whatever the order of the packages, a file belongs to the one in the deepest directory around
    it, and to none if no directory holds it. The order makes a difference to the bundle exactly if
    an import of the file is disputed. -/
theorem bundle_perm_iff (extractor : Extractor) (document : Document) (d : Declaration)
    (apart : Apart extractor.packages) :
    let path := (Path.ofString document.path).resolve
    let own := (extractor.bundle document d).package
    let among (packages : List Package) := { extractor with packages }.bundle document d
    (∀ package, own = some package ↔ Owns extractor.packages path package) ∧
    (own = none ↔ ∀ package ∈ extractor.packages, package.holds path = false) ∧
    (∀ packages, extractor.packages.Perm packages → (among packages).package = own) ∧
    ((∀ packages, extractor.packages.Perm packages →
        among packages = extractor.bundle document d) ↔
      ∀ statement ∈ document.imports, ¬Disputed extractor.packages own statement) := by
  intro path own among
  have owners {packages : List Package} (perm : extractor.packages.Perm packages) :
      owner packages path = owner extractor.packages path := owner_perm apart perm
  refine ⟨fun package => owner_eq_some_iff apart, owner_eq_none_iff,
    fun packages perm => owners perm, ?_⟩
  constructor
  · intro same statement listed disputed
    obtain ⟨first, second, front, back, differ⟩ :=
      exists_orders (Path.ofString document.path).parent listed disputed apart
    have equal : relevantImports first _ (owner first path) document.imports =
        relevantImports second _ (owner second path) document.imports :=
      congrArg Bundle.imports ((same first front).trans (same second back).symm)
    rw [owners front, owners back] at equal
    exact differ equal
  · intro undisputed packages perm
    have member mine (owned : own = some mine) : mine ∈ extractor.packages :=
      (owns_of_owner apart owned).member
    refine bundle_eq_of_packages d (owners perm) (congrArg (List.map Import.text) ?_)
    exact List.filter_congr fun statement listed =>
      isRelevant_perm (undisputed statement listed) member apart perm

/-- A package in a directory of another package. -/
def inner : Package := ⟨"@acme/core", .ofString "/ws/app/core", "library"⟩

def workspace : List Package :=
  [⟨"@acme/app", .ofString "/ws/app", "library"⟩, inner]

/-- A file of the inner package, with imports of either package and of neither. -/
def innerFile : Document where
  path := "/ws/app/core/index.ts"
  relativePath := "app/core/index.ts"
  source := Utf8.encode "function f() ;".toList
  language := "typescript"
  declarations := []
  imports :=
    [⟨"import '@acme/app';", "@acme/app", 1⟩, ⟨"import '@acme/core/part';", "@acme/core/part", 2⟩,
      ⟨"import './part';", "./part", 3⟩, ⟨"import '../main';", "../main", 4⟩,
      ⟨"import 'lodash';", "lodash", 5⟩]
  exportNames := []

def innerFunction : Declaration where
  kind := .function
  name := "f"
  node := ⟨"function_declaration", 0, 14, true, none, []⟩
  ancestry := ["program"]
  anchor := ⟨0, 14, none⟩
  relativePath := "app/core/index.ts"
  firstLine := 1
  lastLine := 1
  parent := none
  modifiers := []
  exported := some false
  initializerType := none
  indent := []
  comment := none
  slot := {}

/-- The imports that leave the inner package are shown, in either order of the packages. -/
theorem bundle_perm_iff_inner :
    let extractor : Extractor := { settings := {}, packages := workspace }
    Apart workspace ∧
    (extractor.bundle innerFile innerFunction).package = some inner ∧
    (extractor.bundle innerFile innerFunction).imports =
      ["import '@acme/app';", "import '../main';", "import 'lodash';"] ∧
    ∀ packages, workspace.Perm packages →
      { extractor with packages }.bundle innerFile innerFunction =
        extractor.bundle innerFile innerFunction := by
  intro extractor
  have apart : Apart workspace := by decide +kernel
  have own : (extractor.bundle innerFile innerFunction).package = some inner := by decide +kernel
  obtain ⟨-, -, -, order⟩ := bundle_perm_iff extractor innerFile innerFunction apart
  refine ⟨apart, own, by decide +kernel, order.mpr ?_⟩
  rw [own]
  decide +kernel

/-- Two packages, of which one has a name that continues the name of the other. -/
def nested : List Package :=
  [⟨"app", .ofString "/ws/app", "library"⟩, ⟨"app/util", .ofString "/ws/util", "library"⟩]

/-- A file of the first package that imports the other one: the import is left out if the packages
    are listed so, and shown if they are listed the other way round. -/
theorem imports_follow_order :
    let file := Path.ofString "/ws/app/main.ts"
    let statement : Import := ⟨"import 'app/util';", "app/util", 1⟩
    (nested.map (·.name)).Nodup ∧ Apart nested ∧ nested.Perm nested.reverse ∧
      owner nested file.resolve = nested.head? ∧
      owner nested.reverse file.resolve = nested.head? ∧
      relevantImports nested file.parent (owner nested file.resolve) [statement] = [] ∧
      relevantImports nested.reverse file.parent (owner nested.reverse file.resolve) [statement] =
        [statement.text] := by
  decide +kernel

end Extractor

end Scholia
