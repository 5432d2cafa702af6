import Workbench.Text.Split
import Workbench.Url.Basic

namespace Workbench
namespace Lint

/-!
# Configuration changes

A change of the configuration is known by what it affects.  A change to a section also changes the
sections that it is part of: the sections are named by components between dots, and what counts is
whether one list of components begins the other (`touches_eq_true_iff`).
-/

/-- A change of the configuration, as it is told to those who listen. -/
structure Change where
  /-- Whether it affects a section as it is seen from a resource, or from none in particular. -/
  affects : String → Option Url → Bool

/-- A change to one section, for some resources or for all. -/
structure SectionChange where
  changed : String
  /-- The resources it changed for; for all of them if there are none here. -/
  resources : List Url
  deriving DecidableEq, Repr

namespace SectionChange

/-- Whether a change to one section changes another: they are the same, or the other one goes on
after a dot. -/
def touches (changed other : List Char) : Bool :=
  changed == other || (other ++ ['.']).isPrefixOf changed

/-- Whether a change counts for a resource, or for no resource in particular. -/
def covers (change : SectionChange) (scope : Option Url) : Bool :=
  match scope with
  | some resource => change.resources.isEmpty || change.resources.contains resource
  | none => true

/-- Whether a change affects a section as it is seen from a resource. -/
def affects (change : SectionChange) (configSection : String) (scope : Option Url) : Bool :=
  touches change.changed.toList configSection.toList && change.covers scope

def toChange (change : SectionChange) : Change where
  affects := change.affects

/-- The components of a section, between dots. -/
def components (configSection : String) : List (List Char) :=
  configSection.toList.splitOn '.'

theorem touches_eq_true_iff {changed other : List Char} :
    touches changed other = true ↔ other.splitOn '.' <+: changed.splitOn '.' := by
  rw [Text.splitOn_prefix_iff, touches, Bool.or_eq_true, beq_iff_eq, List.isPrefixOf_iff_prefix,
    eq_comm]

theorem covers_eq_true_iff {change : SectionChange} {scope : Option Url} :
    change.covers scope = true ↔
      ∀ resource ∈ scope, change.resources = [] ∨ resource ∈ change.resources := by
  cases scope with
  | none => simp [covers]
  | some resource => simp [covers]

/-- A change affects a section if the components of the section begin those of the changed one, and
if it counts for the resource. -/
theorem affects_eq_true_iff {change : SectionChange} {configSection : String}
    {scope : Option Url} :
    change.affects configSection scope = true ↔
      components configSection <+: components change.changed ∧
        ∀ resource ∈ scope, change.resources = [] ∨ resource ∈ change.resources := by
  rw [affects, Bool.and_eq_true, touches_eq_true_iff, covers_eq_true_iff]
  rfl

end SectionChange
end Lint
end Workbench
