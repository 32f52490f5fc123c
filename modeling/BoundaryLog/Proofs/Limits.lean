import BoundaryLog.Proofs.LastEvents
import BoundaryLog.Proofs.Pulls

/-! # How many events a read yields

A feed yields one item for each row, pull by pull, and nothing after that.  The limit of a read takes
the front of the rows that the same read has without a limit.  A read of the last event alone has its
own number of rows, which stands in the place of the limit: one row at most, also where the limit is
no event at all. -/
set_option autoImplicit false
namespace BoundaryLog

/-! ## Rows of limited reads -/

namespace Query
variable (typePrefix : String) (q : Query) (traversal : Traversal) (records : List Record)

theorem rows_limited (hMany : q.onlyLast = false) (n : Count) (hLimit : traversal.limit = some n) :
    q.rows typePrefix traversal records =
      (q.rows typePrefix traversal.unlimited records).take n.value := by
  obtain ⟨bound, backwards, limit⟩ := traversal
  obtain rfl : limit = some n := hLimit
  rw [rows, traverse_limited typePrefix hMany, List.map_take]
  rfl

theorem length_rows_limited (hMany : q.onlyLast = false) (n : Count)
    (hLimit : traversal.limit = some n) :
    (q.rows typePrefix traversal records).length ≤ n.value := by
  rw [q.rows_limited typePrefix traversal records hMany n hLimit, List.length_take]
  exact Nat.min_le_left _ _

/-- The limit does not matter to a read of the last event alone. -/
theorem rows_of_onlyLast (hLast : q.onlyLast = true) :
    q.rows typePrefix traversal records = q.rows typePrefix traversal.unlimited records := by
  simp only [rows, traverse_eq, hLast, Traversal.unlimited]
  rfl

theorem length_rows_of_onlyLast (hLast : q.onlyLast = true) :
    (q.rows typePrefix traversal records).length ≤ 1 := by
  simp only [rows, traverse_eq, hLast, if_true, List.length_map, List.length_take]
  exact Nat.min_le_left _ _

end Query

/-- A count that is not zero has room for one. -/
theorem Count.one_le_value (n : Count) (h : n ≠ .zero) : 1 ≤ n.value := by
  obtain ⟨value, bounded⟩ := n
  cases value with
  | zero => exact absurd rfl h
  | succ value => exact Nat.le_add_left 1 value

namespace Gateway
variable (g : Gateway) (q : Query) (traversal : Traversal) (n : Count)

/-- On whatever log, a read that can be written is answered with a feed, and with a limit it is the
front of the feed without a limit, so that no number of pulls yields more events than the limit.  The
one exception is a read of the last event alone with the limit of no event: such a read has the feed
that it has without a limit, which yields one event at most. -/
theorem limit_bounds_pulls (hLimit : traversal.limit = some n) (text : String)
    (hText : q.scanText g.config.typePrefix traversal = .ok text) (d : Deployment MemoryLog)
    (hHeld : d.backend.heldRows = none) :
    ∃ feed plain : Feed,
      (g.read q traversal d).1 = .ok feed ∧ (g.read q traversal.unlimited d).1 = .ok plain ∧
      feed = (if q.onlyLast then plain else { plain with rows := plain.rows.take n.value }) ∧
      (q.onlyLast = false ∨ n ≠ .zero → ∀ k, (feed.pulls k).length ≤ n.value) ∧
      (q.onlyLast = true → ∀ k, (feed.pulls k).length ≤ 1) := by
  obtain ⟨-, plainText, hPlainText⟩ :=
    q.scanText_of_scanText g.config.typePrefix traversal traversal.unlimited text hText
  have limited := (g.read_spec q traversal d text hText hHeld).1
  have plain := (g.read_spec q traversal.unlimited d plainText hPlainText hHeld).1
  refine ⟨_, _, limited, plain, ?_⟩
  let rows := q.rows g.config.typePrefix traversal d.backend.records
  have pulled : ∀ k, (Feed.pulls k ⟨rows.map .ok, g.config.typePrefix⟩).length ≤ rows.length := by
    intro k
    exact Nat.le_trans (Feed.length_pulls_le k _) (Nat.le_of_eq (List.length_map _))
  cases hLast : q.onlyLast with
  | true =>
      have atMostOne : rows.length ≤ 1 := q.length_rows_of_onlyLast _ _ _ hLast
      refine ⟨?_, ?_, ?_⟩
      · rw [if_pos rfl, q.rows_of_onlyLast _ _ _ hLast]
      · rintro (hMany | hSome) k
        · cases hMany
        · exact Nat.le_trans (Nat.le_trans (pulled k) atMostOne) (n.one_le_value hSome)
      · intro _ k
        exact Nat.le_trans (pulled k) atMostOne
  | false =>
      have atMost : rows.length ≤ n.value := q.length_rows_limited _ _ _ hLast n hLimit
      refine ⟨?_, ?_, nofun⟩
      · rw [if_neg Bool.false_ne_true, q.rows_limited _ _ _ hLast n hLimit, List.map_take]
      · intro _ k
        exact Nat.le_trans (pulled k) atMost

/-! Two of the sales of the day match.  With the limit of one the read stops after the first one; with
the limit of no event, the read of the last event alone still yields the second one. -/

namespace Sales

theorem one_sale_is_read :
    ∃ feed, (desk.read (.criteria [sold]) ⟨none, false, some .one⟩ day).1 = .ok feed ∧
      feed.remaining = 1 ∧ ∀ k, (feed.pulls k).length ≤ 1 := by
  have hText : (Query.criteria [sold]).scanText desk.config.typePrefix ⟨none, false, some .one⟩ =
      .ok _ := (Query.scanText_eq_ok_iff _ _ _ _).2 ⟨rfl, rfl⟩
  have plainText : (Query.criteria [sold]).scanText desk.config.typePrefix ⟨none, false, none⟩ =
      .ok _ := (Query.scanText_eq_ok_iff _ _ _ _).2 ⟨rfl, rfl⟩
  obtain ⟨feed, plain, hFeed, hPlain, front, bounded, -⟩ :=
    limit_bounds_pulls desk (.criteria [sold]) ⟨none, false, some .one⟩ .one rfl _ hText day rfl
  have known := (desk.read_spec _ ⟨none, false, none⟩ day _ plainText rfl).1
  obtain rfl := Except.ok.inj (hPlain.symm.trans known)
  refine ⟨feed, hFeed, ?_, bounded (Or.inl rfl)⟩
  rw [front]
  rfl

theorem last_sale_exceeds_limit_zero :
    ∃ feed, (desk.read (.criteria [sold.lastOnly]) ⟨none, false, some .zero⟩ day).1 = .ok feed ∧
      ¬ (feed.pulls 1).length ≤ Count.zero.value := by
  have hText : (Query.criteria [sold.lastOnly]).scanText desk.config.typePrefix
      ⟨none, false, some .zero⟩ = .ok _ := (Query.scanText_eq_ok_iff _ _ _ _).2 ⟨rfl, rfl⟩
  refine ⟨_, (desk.read_spec _ _ day _ hText rfl).1, ?_⟩
  rw [Feed.pulls_eq_take, List.length_take]
  exact Nat.not_succ_le_zero 0

end Sales
end Gateway
end BoundaryLog
