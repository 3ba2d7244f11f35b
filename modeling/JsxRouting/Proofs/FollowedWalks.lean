import JsxRouting.Proofs.ReadTrees
import JsxRouting.Walk

namespace JsxRouting

/-- A store that comes of another by changes to the nodes with numbers from `low` to below `high`, and of which
something can be read. It is read from these nodes and from new ones, and thus for as long as they are kept. -/
structure Store.Renews (low high : Nat) (store : Store) (reads : Store → Prop) (after : Store) : Prop where
  keeps : store.KeepsOutside low high after
  reads {later : Store} : after.Keeps (fun id => low ≤ id ∧ id < high ∨ store.size ≤ id) later → reads later

/-- A walk that does in a store what a computation does with trees. It fails with the same error, or it keeps the
same in mind and leaves a store of which the result is read. -/
def Follows {α Memory : Type} (low high : Nat) (store : Store) (reads : α → Store → Prop)
    (plain : Except Error (α × Memory)) (walked : Except Error (Walking Memory)) : Prop :=
  match plain with
  | .error error => walked = .error error
  | .ok (result, memory) => ∃ after, walked = .ok ⟨after, memory⟩ ∧ store.Renews low high (reads result) after

namespace Follows

variable {α β γ Memory : Type} {low middle lower high higher : Nat} {store : Store} {reads : α → Store → Prop}
  {action : StateT Memory (Except Error) α} {memory : Memory} {walked : Except Error (Walking Memory)}

/-- Nothing is done, and the result is read already. -/
theorem pure {result : α} (memory : Memory)
    (isRead : ∀ {later}, store.Keeps (fun id => low ≤ id ∧ id < high ∨ store.size ≤ id) later →
      reads result later) :
    Follows low high store reads (.ok (result, memory)) (.ok ⟨store, memory⟩) :=
  ⟨store, rfl, .refl store _, isRead⟩

/-- What is read of a result can give something else that is read of it, given that more nodes are kept. -/
theorem widen {others : α → Store → Prop} {plain : Except Error (α × Memory)}
    (follows : Follows lower higher store reads plain walked) (before : low ≤ lower) (behind : higher ≤ high)
    (implies : ∀ {result after later}, store.KeepsOutside lower higher after →
      after.Keeps (fun id => low ≤ id ∧ id < high ∨ store.size ≤ id) later → reads result later →
      others result later) :
    Follows low high store others plain walked := by
  cases plain with
  | error error => exact follows
  | ok outcome =>
    obtain ⟨after, same, renews⟩ := follows
    refine ⟨after, same, renews.keeps.mono fun _ _ outside => by omega, fun keeps => ?_⟩
    exact implies renews.keeps keeps (renews.reads (keeps.mono fun _ _ inside => by omega))

/-- What is made of a result is read if it is made of what is read. -/
theorem map {others : β → Store → Prop} {change : α → β}
    (follows : Follows low high store reads (action memory) walked)
    (implies : ∀ {result later}, reads result later → others (change result) later) :
    Follows low high store others
      ((do return change (← action) : StateT Memory (Except Error) β) memory) walked := by
  have made : Follows low high store (fun result => others (change result)) (action memory) walked :=
    follows.widen (Nat.le_refl _) (Nat.le_refl _) fun _ _ => implies
  change Follows low high store others
    (action memory >>= fun (result, memory) => .ok (change result, memory)) walked
  cases ran : action memory <;> rw [ran] at made <;> exact made

/-- One walk behind another over other nodes: what the first one left is still read when both are done. -/
theorem both {also : β → Store → Prop} {all : γ → Store → Prop} {combine : α → β → γ}
    {next : StateT Memory (Except Error) β} {walkNext : Walking Memory → Except Error (Walking Memory)}
    (first : Follows low middle store reads (action memory) walked)
    (second : ∀ {result memoryThen after}, action memory = .ok (result, memoryThen) →
      store.Renews low middle (reads result) after →
      Follows middle high after also (next memoryThen) (walkNext ⟨after, memoryThen⟩))
    (combines : ∀ {result other later}, reads result later → also other later → all (combine result other) later)
    (before : low ≤ middle) (behind : middle ≤ high) (within : high ≤ store.size) :
    Follows low high store all
      ((do return combine (← action) (← next) : StateT Memory (Except Error) γ) memory) (walked >>= walkNext) := by
  change Follows low high store all (action memory >>= fun (result, memory) =>
    next memory >>= fun (other, memory) => .ok (combine result other, memory)) (walked >>= walkNext)
  cases ran : action memory with
  | error error =>
    rw [ran] at first
    obtain rfl := first
    rfl
  | ok outcome =>
    obtain ⟨result, memoryThen⟩ := outcome
    rw [ran] at first
    obtain ⟨between, rfl, renews⟩ := first
    have follows := second ran renews
    change Follows low high store all (next memoryThen >>= _) (walkNext ⟨between, memoryThen⟩)
    cases ran : next memoryThen with
    | error error =>
      rw [ran] at follows
      exact follows
    | ok outcome =>
      rw [ran] at follows
      obtain ⟨after, same, renewsOther⟩ := follows
      have grown := renews.keeps.size
      refine ⟨after, same, ?_, fun keeps => combines (renews.reads ?_) (renewsOther.reads ?_)⟩
      · exact renews.keeps.outside_trans renewsOther.keeps before behind
      · exact (renewsOther.keeps.mono fun _ _ inside => by omega).trans keeps fun _ _ inside => by omega
      · exact keeps.mono fun _ _ inside => by omega

end Follows

end JsxRouting
