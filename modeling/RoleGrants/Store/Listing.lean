import RoleGrants.Store.Basic

/-!
# Listings

A store is shown as one list of rows per kind, in increasing order. Rows are compared column by
column: a missing value comes before all others, texts follow the order of their code points.
-/

namespace RoleGrants

/-- A column of a row as it is shown. -/
inductive Cell where
  | missing
  | count (value : Nat)
  | flag (value : Bool)
  | text (value : String)
  deriving DecidableEq, Repr

abbrev Row := List Cell

namespace Cell

def ofText : Option String → Cell
  | some s => .text s
  | none => .missing

def ofCount : Option Nat → Cell
  | some n => .count n
  | none => .missing

/-- The rank of a kind of cell: missing values come first. -/
def rank : Cell → Nat
  | .missing => 0
  | .count _ => 1
  | .flag _ => 2
  | .text _ => 3

/-- Whether a cell comes strictly before another. -/
def before : Cell → Cell → Bool
  | .count m, .count n => m < n
  | .flag a, .flag b => !a && b
  | .text a, .text b => a < b
  | a, b => a.rank < b.rank

end Cell

/-- Whether a row may stand before another. -/
def Row.le : Row → Row → Bool
  | [], _ => true
  | _ :: _, [] => false
  | a :: as, b :: bs => a.before b || (!b.before a && Row.le as bs)

/-- Rows in increasing order. -/
def sortRows (rows : List Row) : List Row := rows.mergeSort Row.le

/-- Texts in increasing order of their code points. -/
def sortTexts (texts : List String) : List String := texts.mergeSort (fun a b => decide (a ≤ b))

/-- All rows of a store, kind by kind. -/
structure Listing where
  organizations : List Row
  users : List Row
  groups : List Row
  memberships : List Row
  projects : List Row
  userGrants : List Row
  groupGrants : List Row
  templates : List Row
  templateUsers : List Row
  templateGroups : List Row
  characteristics : List Row
  deriving DecidableEq, Repr

namespace Store

open Cell in
/-- The store as it is shown. Ids of grants and template entries are not. -/
def listing (s : Store) : Listing where
  organizations := sortRows <| s.organizations.map fun o => [text o.id, text o.key, text o.name]
  users := sortRows <| s.users.map fun u => [text u.id, text u.login, flag u.active]
  groups := sortRows <| s.groups.map fun g => [text g.id, text g.organization, text g.name]
  memberships := sortRows <| s.memberships.map fun m => [text m.user, text m.group]
  projects := sortRows <| s.projects.map fun p =>
    [text p.id, text p.key, text p.qualifier, ofText p.organization, ofCount p.refreshedAt]
  userGrants := sortRows <| s.userGrants.map fun g => [text g.user, ofText g.project, text g.role]
  groupGrants := sortRows <| s.groupGrants.map fun g =>
    [ofText g.group, ofText g.project, text g.role]
  templates := sortRows <| s.templates.map fun t =>
    [text t.id, ofText t.organization, text t.name, ofText t.description]
  templateUsers := sortRows <| s.templateUsers.map fun e =>
    [text e.template, text e.user, text e.role]
  templateGroups := sortRows <| s.templateGroups.map fun e =>
    [text e.template, ofText e.group, text e.role]
  characteristics := sortRows <| s.characteristics.map fun c =>
    [text c.template, text c.role, flag c.forCreator]

/-- How many grants of users and of groups, and how many template entries of users and of groups and
characteristics there are. -/
def sizes (s : Store) : List Nat :=
  [s.userGrants.length, s.groupGrants.length, s.templateUsers.length, s.templateGroups.length,
    s.characteristics.length]

end Store

end RoleGrants
