import CodeIndex.Engine.Accessors
import Mathlib.Data.List.Forall2
/-!
# Getters that agree

Two engines name the same things by handles of their own. Handles agree when each question about
them has the same answer: strings show the same octets, and where an answer is a handle again, or a
list of them, these agree in turn. Everything read through handles that agree is the same.
-/
namespace CodeIndex

/-- Lists that agree item by item have the same images. -/
theorem map_eq_of_forall₂ {α β γ : Type} {f : α → γ} {g : β → γ} {as : List α} {bs : List β}
    (h : List.Forall₂ (fun a b => f a = g b) as bs) : as.map f = bs.map g := by
  have images : List.Forall₂ Eq (as.map f) (bs.map g) :=
    List.forall₂_map_left_iff.mpr (List.forall₂_map_right_iff.mpr h)
  rwa [List.forall₂_eq_eq_eq] at images

/-- The reader without the ranges of lines that end beyond 32 bits. -/
def RecordReader.bounded (r : RecordReader) : RecordReader :=
  { r with inLines := fun start count =>
      if start.toNat + count.toNat < UInt32.size then r.inLines start count else [] }

namespace Accessors

variable {P Q : Pointee → Type} (a : Accessors P) (b : Accessors Q)

structure AgreeOnDirective (x : P .directive) (y : Q .directive) : Prop where
  source : (a.directiveSource x).octets = (b.directiveSource y).octets
  target : (a.directiveTarget x).octets = (b.directiveTarget y).octets
  line : a.directiveLine x = b.directiveLine y

structure AgreeOnDependency (x : P .dependency) (y : Q .dependency) : Prop where
  kind : a.dependencyKind x = b.dependencyKind y
  isSystem : a.dependencyIsSystem x = b.dependencyIsSystem y
  string : ∀ field, (a.dependencyString x field).octets = (b.dependencyString y field).octets

structure AgreeOnSymbol (x : P .symbol) (y : Q .symbol) : Prop where
  language : a.symbolLanguage x = b.symbolLanguage y
  kind : a.symbolKind x = b.symbolKind y
  subkind : a.symbolSubkind x = b.symbolSubkind y
  properties : a.symbolProperties x = b.symbolProperties y
  roles : a.symbolRoles x = b.symbolRoles y
  relatedRoles : a.symbolRelatedRoles x = b.symbolRelatedRoles y
  string : ∀ field, (a.symbolString x field).octets = (b.symbolString y field).octets

structure AgreeOnRelation (x : P .relation) (y : Q .relation) : Prop where
  roles : a.relationRoles x = b.relationRoles y
  symbol : a.AgreeOnSymbol b (a.relationSymbol x) (b.relationSymbol y)

structure AgreeOnOccurrence (x : P .occurrence) (y : Q .occurrence) : Prop where
  symbol : a.AgreeOnSymbol b (a.occurrenceSymbol x) (b.occurrenceSymbol y)
  roles : a.occurrenceRoles x = b.occurrenceRoles y
  place : a.occurrencePlace x = b.occurrencePlace y
  relations :
    List.Forall₂ (a.AgreeOnRelation b) (a.occurrenceRelations x) (b.occurrenceRelations y)

structure AgreeOnUnit (x : P .unit) (y : Q .unit) : Prop where
  string : ∀ field, (a.unitString x field).octets = (b.unitString y field).octets
  flag : ∀ flag, a.unitFlag x flag = b.unitFlag y flag
  modified : a.unitModified x = b.unitModified y
  dependencies :
    List.Forall₂ (a.AgreeOnDependency b) (a.unitDependencies x) (b.unitDependencies y)
  directives : List.Forall₂ (a.AgreeOnDirective b) (a.unitDirectives x) (b.unitDirectives y)

/-- Ranges of lines need only agree when they end within 32 bits. -/
structure AgreeOnRecord (x : P .record) (y : Q .record) : Prop where
  symbols : ∀ uncached,
    List.Forall₂ (a.AgreeOnSymbol b) (a.recordSymbols x uncached) (b.recordSymbols y uncached)
  occurrences :
    List.Forall₂ (a.AgreeOnOccurrence b) (a.recordOccurrences x) (b.recordOccurrences y)
  lines : ∀ start count, start.toNat + count.toNat < UInt32.size →
    List.Forall₂ (a.AgreeOnOccurrence b) (a.recordLines x start count) (b.recordLines y start count)

variable {a b}

theorem AgreeOnDirective.directive {x : P .directive} {y : Q .directive}
    (h : a.AgreeOnDirective b x y) : a.directive x = b.directive y := by
  rw [Accessors.directive, Accessors.directive, h.source, h.target, h.line]

theorem AgreeOnDependency.dependency {x : P .dependency} {y : Q .dependency}
    (h : a.AgreeOnDependency b x y) : a.dependency x = b.dependency y := by
  simp only [Accessors.dependency, h.kind, h.isSystem, h.string]

theorem AgreeOnSymbol.symbol {x : P .symbol} {y : Q .symbol} (h : a.AgreeOnSymbol b x y) :
    a.symbol x = b.symbol y := by
  simp only [Accessors.symbol, h.language, h.kind, h.subkind, h.properties, h.roles,
    h.relatedRoles, h.string]

theorem AgreeOnRelation.relation {x : P .relation} {y : Q .relation}
    (h : a.AgreeOnRelation b x y) : a.relation x = b.relation y := by
  rw [Accessors.relation, Accessors.relation, h.roles, AgreeOnSymbol.symbol h.symbol]

theorem AgreeOnOccurrence.occurrence {x : P .occurrence} {y : Q .occurrence}
    (h : a.AgreeOnOccurrence b x y) : a.occurrence x = b.occurrence y := by
  have relations := map_eq_of_forall₂ (h.relations.imp fun _ _ => AgreeOnRelation.relation)
  rw [Accessors.occurrence, Accessors.occurrence, AgreeOnSymbol.symbol h.symbol, h.roles, h.place,
    relations]

/-- Units that agree are read the same. -/
theorem AgreeOnUnit.reader {x : P .unit} {y : Q .unit} (h : a.AgreeOnUnit b x y) :
    a.unitReader x = b.unitReader y := by
  have directives := map_eq_of_forall₂ (h.directives.imp fun _ _ => AgreeOnDirective.directive)
  have dependencies :=
    map_eq_of_forall₂ (h.dependencies.imp fun _ _ => AgreeOnDependency.dependency)
  simp only [unitReader, h.string, h.flag, h.modified, directives, dependencies]

/-- Records that agree are read the same, but for ranges of lines that end beyond 32 bits. -/
theorem AgreeOnRecord.reader {x : P .record} {y : Q .record} (h : a.AgreeOnRecord b x y) :
    (a.recordReader x).bounded = (b.recordReader y).bounded := by
  have read {xs : List (P .occurrence)} {ys : List (Q .occurrence)}
      (same : List.Forall₂ (a.AgreeOnOccurrence b) xs ys) :
      xs.map a.occurrence = ys.map b.occurrence :=
    map_eq_of_forall₂ (same.imp fun _ _ => AgreeOnOccurrence.occurrence)
  have symbols := map_eq_of_forall₂ ((h.symbols false).imp fun _ _ => AgreeOnSymbol.symbol)
  rw [RecordReader.bounded, RecordReader.bounded, RecordReader.mk.injEq]
  refine ⟨symbols, read h.occurrences, ?_⟩
  funext start count
  split
  · rename_i fits
    exact read (h.lines start count fits)
  · rfl

end Accessors

end CodeIndex
