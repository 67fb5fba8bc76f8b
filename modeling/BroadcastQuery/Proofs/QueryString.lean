import Mathlib
import BroadcastQuery.Request
import BroadcastQuery.Proofs.Dates
import BroadcastQuery.Proofs.Form
import BroadcastQuery.Proofs.Tables

/-!
Query strings tell requests apart. What is sent is read back as the parameters, whose names ascend,
and the parameters say everything about a request but its purpose.
-/
namespace BroadcastQuery

theorem Date.text_inj {a b : Date} (same : a.text = b.text) : a = b := by
  have read := congrArg Date.ofText same
  rw [Date.ofText_text, Date.ofText_text] at read
  exact Except.ok.inj read

theorem Aggregation.name_inj {a b : Aggregation} (same : a.name.toList = b.name.toList) :
    a = b := by
  cases a <;> cases b <;> first | rfl | exact absurd same (by decide)

namespace Request

/-- Only the parameter of the tree may be missing. -/
theorem names_fields (request : Request) :
    request.fields.map Prod.fst = ["detailed".toList, "start_date".toList, "end_date".toList,
      "aggregate".toList] ++ (if request.tree.isSome then ["query".toList] else []) := by
  unfold fields
  cases request.tree <;> rfl

theorem distinct_fields (request : Request) : (request.fields.map Prod.fst).Nodup := by
  rw [names_fields]
  cases request.tree.isSome <;> decide

/-- Each parameter is found under its name, and none for a tree that is absent. -/
theorem find?_fields (request : Request) :
    request.fields.find? "detailed".toList =
      some (if request.detailed then "true" else "false").toList ∧
    request.fields.find? "start_date".toList = some request.range.start.text ∧
    request.fields.find? "end_date".toList = some request.range.stop.text ∧
    request.fields.find? "aggregate".toList = some request.aggregation.name.toList ∧
    request.fields.find? "query".toList = request.tree := by
  unfold fields
  cases request.tree <;> exact ⟨rfl, rfl, rfl, rfl, rfl⟩

theorem params_inj {a b : Request} (same : a.params = b.params) :
    a.tree = b.tree ∧ a.detailed = b.detailed ∧ a.range.start = b.range.start ∧
      a.range.stop = b.range.stop ∧ a.aggregation = b.aggregation := by
  have sorted : b.params.Perm b.fields := b.fields.sorted_perm
  have perm : a.fields.Perm b.fields := by
    rw [← same] at sorted
    exact a.fields.sorted_perm.symm.trans sorted
  -- The order is of no account, since the names differ; so each name leads to the same text.
  have found := Table.find?_eq_of_perm perm a.distinct_fields
  obtain ⟨detailed, start, stop, aggregate, query⟩ := a.find?_fields
  obtain ⟨detailed', start', stop', aggregate', query'⟩ := b.find?_fields
  have flags : ∀ x y : Bool, (if x then "true" else "false").toList =
      (if y then "true" else "false").toList → x = y := by decide
  refine ⟨?_, ?_, ?_, ?_, ?_⟩
  · rw [← query, ← query', found]
  · apply flags
    apply Option.some.inj
    rw [← detailed, ← detailed', found]
  · apply Date.text_inj
    apply Option.some.inj
    rw [← start, ← start', found]
  · apply Date.text_inj
    apply Option.some.inj
    rw [← stop, ← stop', found]
  · apply Aggregation.name_inj
    apply Option.some.inj
    rw [← aggregate, ← aggregate', found]

/-- The query string of a request is read back as its parameters, each of which has a name after
that of the one before, and requests of one query string agree in all but their purpose. -/
theorem queryString_faithful (request : Request) :
    Form.decodePairs? request.queryString = some request.params ∧
    (request.params.map Prod.fst).Pairwise (fun s t => Text.le t s = false) ∧
    ∀ other : Request, other.queryString = request.queryString →
      other.tree = request.tree ∧ other.detailed = request.detailed ∧
      other.range.start = request.range.start ∧ other.range.stop = request.range.stop ∧
      other.aggregation = request.aggregation := by
  have read (request : Request) :
      Form.decodePairs? request.queryString = some request.params :=
    Form.decodePairs?_encodePairs request.params
  refine ⟨read request, Table.strictly_ascending_sorted request.distinct_fields, ?_⟩
  intro other same
  apply params_inj
  apply Option.some.inj
  rw [← read other, ← read request, same]

/-- Marks of the form in the tree, a year before the first and one of five digits. -/
theorem queryString_faithful_marks :
    Form.decodePairs? ("aggregate=week&detailed=false&end_date=%2B10000-01-01&" ++
        "query=a%26b%3D+%C3%A9%2B&start_date=-0001-12-31").toList =
      some [("aggregate".toList, "week".toList), ("detailed".toList, "false".toList),
        ("end_date".toList, "+10000-01-01".toList), ("query".toList, "a&b= é+".toList),
        ("start_date".toList, "-0001-12-31".toList)] := by
  have sent : (⟨.main, some "a&b= é+".toList, false,
      ⟨⟨-1, 12, 31, by decide⟩, ⟨10000, 1, 1, by decide⟩, by decide⟩,
      .week⟩ : Request).queryString =
      ("aggregate=week&detailed=false&end_date=%2B10000-01-01&" ++
        "query=a%26b%3D+%C3%A9%2B&start_date=-0001-12-31").toList := by
    cbv
  rw [← sent, (queryString_faithful _).1]
  cbv

end Request
end BroadcastQuery
