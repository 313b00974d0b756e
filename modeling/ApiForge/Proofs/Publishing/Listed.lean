import ApiForge.Proofs.Files.Proper
import ApiForge.Proofs.Text.Order
import ApiForge.Publishing.Listing

/-!
# What is listed

The clients in a folder that holds each name once are listed in the strict order
of their names, each of them once.
-/

namespace ApiForge.Listing

variable {entries : Folder}

theorem mem_clients {name : Text} {inside : Folder} :
    (name, inside) ∈ clients entries ↔
      (name, .folder inside) ∈ entries ∧ name.startsWith ['.'] = false := by
  unfold clients
  rw [List.mem_filterMap]
  constructor
  · rintro ⟨⟨other, node⟩, member, kept⟩
    cases node with
    | file bytes => cases kept
    | folder found =>
        dsimp only at kept
        split at kept
        · cases kept
        · next visible =>
            cases kept
            exact ⟨member, eq_false_of_ne_true visible⟩
  · rintro ⟨member, visible⟩
    exact ⟨_, member, by simp [visible]⟩

theorem sublist_clients (entries : Folder) :
    ((clients entries).map (·.1)).Sublist (entries.map (·.1)) := by
  induction entries with
  | nil => exact .slnil
  | cons entry rest ih =>
      obtain ⟨name, node⟩ := entry
      rw [List.map_cons]
      cases node with
      | file bytes => exact .cons name ih
      | folder inside =>
          by_cases hidden : name.startsWith ['.'] = true
          · rw [show clients ((name, .folder inside) :: rest) = clients rest by
              simp [clients, hidden]]
            exact .cons name ih
          · rw [show clients ((name, .folder inside) :: rest) = (name, inside) :: clients rest by
              simp [clients, hidden]]
            exact .cons_cons name ih

/-- If it is known what is read in each client, the clients are listed with that. -/
theorem ofFolder_eq {shown : Text → Option Manifest}
    (read : ∀ client ∈ clients entries, manifestIn client.2 = .ok (shown client.1)) :
    ofFolder entries =
      .ok ((Text.sortBy (·.1) (clients entries)).map fun client => (client.1, shown client.1)) := by
  have general : ∀ sorted : List (Text × Folder), (∀ client ∈ sorted, client ∈ clients entries) →
      (sorted.mapM fun client => (manifestIn client.2).map (client.1, ·)) =
        .ok (sorted.map fun client => (client.1, shown client.1)) := by
    intro sorted among
    induction sorted with
    | nil => rfl
    | cons client rest ih =>
        rw [List.mapM_cons, read client (among client List.mem_cons_self),
          ih fun other member => among other (List.mem_cons_of_mem _ member)]
        rfl
  exact general _ fun client member => (Text.mem_sortBy _ _).mp member

/-- What is listed comes in the strict order of the names. -/
theorem pairwise_listed (distinct : (entries.map (·.1)).Nodup) (shown : Text → Option Manifest) :
    ((Text.sortBy (·.1) (clients entries)).map fun client => (client.1, shown client.1)).Pairwise
      fun one other => Text.isBefore one.1 other.1 = true :=
  List.pairwise_map.mpr
    (Text.pairwise_sortBy_of_nodup _ _ (distinct.sublist (sublist_clients entries)))

theorem mem_listed {shown : Text → Option Manifest} {name : Text} {manifest? : Option Manifest} :
    (name, manifest?) ∈ (Text.sortBy (·.1) (clients entries)).map (fun client =>
        (client.1, shown client.1)) ↔
      (∃ inside, (name, inside) ∈ clients entries) ∧ manifest? = shown name := by
  rw [List.mem_map]
  constructor
  · rintro ⟨⟨other, inside⟩, member, same⟩
    cases same
    exact ⟨⟨inside, (Text.mem_sortBy _ _).mp member⟩, rfl⟩
  · rintro ⟨⟨inside, member⟩, rfl⟩
    exact ⟨(name, inside), (Text.mem_sortBy _ _).mpr member, rfl⟩

end ApiForge.Listing
