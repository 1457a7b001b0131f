import Signpost.Query.Basic
import Signpost.Schema.Basic
import Signpost.Traversal.Function

/-!
# A sample data model

A schema of items in groups, and queries on its output.
-/

namespace Signpost.Samples

open Query (Expr)
open Traversal (Binding Function Failure Settings)

/-- A member that is always there. -/
def always (name target : String) : String × Member := (name, ⟨⟨target⟩, true⟩)

/-- A member that may be absent. -/
def maybe (name target : String) : String × Member := (name, ⟨⟨target⟩, false⟩)

/-- The schema. -/
def inventory : Schema where
  shapes := [
    (⟨"Output"⟩, .record [always "foo" "Foo", always "items" "Items", maybe "tags" "Tags",
      maybe "groups" "Groups", maybe "labels" "Labels", maybe "status" "Status"]),
    (⟨"Foo"⟩, .record [maybe "bar" "String", always "size" "Long"]),
    (⟨"Item"⟩, .record [maybe "name" "String", always "state" "Status", always "weight" "Double",
      maybe "tags" "Tags"]),
    (⟨"Group"⟩, .record [maybe "members" "Items"]),
    (⟨"Items"⟩, .list ⟨"Item"⟩),
    (⟨"Groups"⟩, .list ⟨"Group"⟩),
    (⟨"Tags"⟩, .list ⟨"String"⟩),
    (⟨"Labels"⟩, .map ⟨"String"⟩),
    (⟨"Status"⟩, .enum ["Active", "Retired"]),
    (⟨"String"⟩, .string),
    (⟨"Long"⟩, .long),
    (⟨"Double"⟩, .double)]

/-- The output, with its members in scope. -/
def output : Binding := ⟨none, ⟨"root", false⟩, .object (some ⟨"Output"⟩), .ref (.model "Output")⟩

/-- Whether a member is active. -/
def isActive (name : String) : Expr := .compare .equal (.field name) (.literal (.string "Active"))

/-- The members of all groups. -/
def allMembers : Expr := .project (.flatten (.field "groups")) (.field "members")

/-- One and a half. -/
def oneAndAHalf : Query.Literal := .float (Binary64.ofDecimal false 15 (-1))

/-- The queries, each under the name of its function. -/
def queries : List (String × Expr) := [
  ("foo_bar", .sub (.field "foo") (.field "bar")),
  ("item_names", .project (.flatten (.field "items")) (.field "name")),
  ("has_prod_tag", .call "contains" [.field "tags", .literal (.string "prod")]),
  ("member_names", .project (.flatten allMembers) (.field "name")),
  ("member_tags", .project (.flatten (.project (.flatten allMembers) (.field "tags"))) .current),
  ("active_names", .filter (.field "items") (.field "name") (isActive "state")),
  ("heavy_items", .call "length"
    [.filter (.field "items") .current (.compare .greater (.field "weight") (.literal oneAndAHalf))]),
  ("env_label", .sub (.field "labels") (.field "env")),
  ("is_big", .and
    (.compare .greater (.sub (.field "foo") (.field "size")) (.literal (.int 10)))
    (isActive "status"))]

/-- The function of a query on the output. -/
def queryFunction (name : String) (e : Expr) : Except Failure Function :=
  (Settings.ofSchema inventory).function name e [⟨none, ⟨"Output"⟩⟩]

end Signpost.Samples
