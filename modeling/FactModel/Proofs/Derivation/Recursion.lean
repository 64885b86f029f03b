import FactModel.Proofs.Derivation.Order

/-!
# Settling without a bound

The order of settling is searched for with a bound on the length of the chains that are followed,
and an entity is marked when its visit begins.  Without either of them the search would go on for
ever on a cycle.  Where there is none, it comes to an end all the same and to the same order: the
entities on the way outrank whatever is visited from there, so that none of them is met again.
-/

namespace FactModel.Derivation

mutual

/-- Visiting an entity, however long the chains are that start there.  The entity is marked when all
that starts there has been settled. -/
inductive Visits (relationships : List Relationship) : Order → Nat → Order → Prop where
  | again {order : Order} {entity : Nat} (known : entity ∈ order.visited) :
      Visits relationships order entity order
  | enter {order order' : Order} {entity : Nat} (unvisited : entity ∉ order.visited)
      (each : SettlesEach relationships order (derivableFrom relationships entity) order') :
      Visits relationships order entity { order' with visited := entity :: order'.visited }

/-- Settling relationships one by one, each when its target has been visited. -/
inductive SettlesEach (relationships : List Relationship) :
    Order → List Relationship → Order → Prop where
  | nil {order : Order} : SettlesEach relationships order [] order
  | cons {order between order' : Order} {r : Relationship} {rest : List Relationship}
      (target : Visits relationships order r.target between)
      (later : SettlesEach relationships { between with settled := between.settled ++ [r] } rest
        order') :
      SettlesEach relationships order (r :: rest) order'

end

/-- Two orders that differ in the entities on the way only, which are marked in the second one. -/
structure Ahead (way : List Nat) (order order' : Order) : Prop where
  settled : order'.settled = order.settled
  visited : ∀ v, v ∈ order'.visited ↔ v ∈ order.visited ∨ v ∈ way

theorem Ahead.settle {way : List Nat} {order order' : Order} (ahead : Ahead way order order')
    (r : Relationship) :
    Ahead way { order with settled := order.settled ++ [r] }
      { order' with settled := order'.settled ++ [r] } where
  settled := congrArg (· ++ [r]) ahead.settled
  visited := ahead.visited

theorem Ahead.enter {way : List Nat} {order order' : Order} (ahead : Ahead way order order')
    (entity : Nat) :
    Ahead (entity :: way) order { order' with visited := entity :: order'.visited } where
  settled := ahead.settled
  visited := by
    intro v
    rw [List.mem_cons, List.mem_cons, ahead.visited]
    tauto

theorem Ahead.leave {way : List Nat} {entity : Nat} {order order' : Order}
    (ahead : Ahead (entity :: way) order order') :
    Ahead way { order with visited := entity :: order.visited } order' where
  settled := ahead.settled
  visited := by
    intro v
    rw [ahead.visited, List.mem_cons, List.mem_cons]
    tauto

section Ranked

variable {relationships : List Relationship} {count : Nat} {rank : Nat → Nat}
  (ranked : ∀ v < count, rank v < count ∧
    ∀ r ∈ derivableFrom relationships v, r.target < count ∧ rank r.target < rank v)

include ranked

/-- A visit comes to an end without a bound, and to the same as with one. -/
theorem exists_visits {bound : Nat} {way : List Nat} {order order' : Order} {entity : Nat}
    (inGraph : entity < count) (room : rank entity < bound)
    (above : ∀ v ∈ way, rank entity < rank v) (ahead : Ahead way order order') :
    ∃ result, Visits relationships order entity result ∧
      Ahead way result (Order.visit relationships bound order' entity) := by
  induction bound generalizing way order order' entity with
  | zero => omega
  | succ bound ih =>
    have offWay : entity ∉ way := fun mem => Nat.lt_irrefl _ (above entity mem)
    rw [Order.visit]
    split
    · next known =>
      have known := ((ahead.visited entity).mp known).resolve_right offWay
      exact ⟨order, .again known, ahead⟩
    · next unvisited =>
      have unvisited : entity ∉ order.visited := fun mem =>
        unvisited ((ahead.visited entity).mpr (.inl mem))
      suffices each : ∀ rest ⊆ derivableFrom relationships entity, ∀ order order',
          Ahead (entity :: way) order order' → ∃ result,
            SettlesEach relationships order rest result ∧
              Ahead (entity :: way) result (rest.foldl (fun order r =>
                let order := Order.visit relationships bound order r.target
                { order with settled := order.settled ++ [r] }) order') by
        obtain ⟨result, settles, alike⟩ := each _ (fun _ mem => mem) _ _ (ahead.enter entity)
        exact ⟨_, .enter unvisited settles, alike.leave⟩
      intro rest subset
      induction rest with
      | nil => exact fun order order' ahead => ⟨order, .nil, ahead⟩
      | cons r rest restIh =>
        intro order order' ahead
        obtain ⟨targetIn, lower⟩ := (ranked entity inGraph).2 r (subset List.mem_cons_self)
        have above' : ∀ v ∈ entity :: way, rank r.target < rank v :=
          List.forall_mem_cons.mpr ⟨lower, fun v mem => Nat.lt_trans lower (above v mem)⟩
        obtain ⟨between, visits, alike⟩ := ih targetIn (by omega) above' ahead
        obtain ⟨result, settles, alike⟩ :=
          restIh (List.cons_subset.mp subset).2 _ _ (alike.settle r)
        exact ⟨result, .cons visits settles, alike⟩

end Ranked

end FactModel.Derivation
