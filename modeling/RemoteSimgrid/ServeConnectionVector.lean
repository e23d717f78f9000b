import RemoteSimgrid.ServerReturn

/-! `connections_unorderedmap_to_vector` as the code computes it: the vector that the caller passes, an
iteration order of the map, any sorting function, and the addition of `int` in the check of neighbours. -/

namespace RemoteSimgrid

/-- What `std::sort` does with the comparison by `actor_id`. It need not be stable. -/
structure ActorSort where
  sort : List ActorConnection → List ActorConnection
  perm : ∀ vector, (sort vector).Perm vector
  sorted : ∀ vector, (sort vector).Pairwise fun a b => a.actorId ≤ b.actorId

/-- The sum of two `int`, in two's complement. -/
def intAdd (a b : Int) : Int := (a + b).bmod (2 ^ 32)

/-- `std::vector::clear`. -/
def vectorClear (_ : List ActorConnection) : List ActorConnection := []

/-- The loop over the sorted vector. -/
def checkNeighbours : List ActorConnection → Except Error Unit
  | previous :: connection :: rest =>
      rsgEnforce (intAdd previous.actorId 1 = connection.actorId)
        (s!"Initial actor ids are not consecutive: {connection.actorId} is just after " ++
          s!"{previous.actorId}")
        (checkNeighbours (connection :: rest))
  | _ => .ok ()

/-- The vector at the end of `connections_unorderedmap_to_vector`, from the values of the map in
iteration order and the vector as the caller passes it. -/
def connectionsToVector (sort : ActorSort) (connectionMap connectionVector : List ActorConnection) :
    Except Error (List ActorConnection) :=
  let cleared := vectorClear connectionVector
  if connectionMap.isEmpty then .ok cleared
  else
    let pushed := connectionMap.foldl (fun vector connection => vector ++ [connection]) cleared
    match sort.sort pushed with
    | [] => .ok []
    | first :: others =>
        rsgEnforce (first.actorId = 2)
          s!"Minimal initial actor_id value is {first.actorId}, while I expected 2" <|
        match checkNeighbours (first :: others) with
        | .error e => .error e
        | .ok () =>
            rsgEnforce ((first :: others).length = connectionMap.length)
              "fix connections_unorderedmap_to_vector: bad output vector size" <|
            .ok (first :: others)

theorem foldl_push_back (pushed connections : List ActorConnection) :
    connections.foldl (fun vector connection => vector ++ [connection]) pushed =
      pushed ++ connections := by
  induction connections generalizing pushed with
  | nil => rw [List.foldl_nil, List.append_nil]
  | cons connection rest ih => rw [List.foldl_cons, ih, List.append_assoc, List.singleton_append]

/-- The addition can only overflow behind the largest `int`, which no larger id follows. -/
theorem intAdd_one_eq {a b : Int} (ha : InInt a) (hb : InInt b) (hle : a ≤ b) :
    intAdd a 1 = b ↔ a + 1 = b := by
  obtain ⟨hlow, hhigh⟩ := ha
  obtain ⟨-, hb⟩ := hb
  unfold intAdd
  by_cases hlast : a + 1 < 2 ^ 31
  · rw [Int.bmod_eq_of_le (by omega) (by omega)]
  · have hmax : a = 2 ^ 31 - 1 := by omega
    rw [hmax]
    constructor
    · intro heq
      have hwrapped : ((2 : Int) ^ 31 - 1 + 1).bmod (2 ^ 32) = -2 ^ 31 := by decide
      omega
    · intro heq
      omega

theorem checkNeighbours_eq {vector : List ActorConnection} (hint : ∀ c ∈ vector, InInt c.actorId)
    (hsorted : vector.Pairwise fun a b => a.actorId ≤ b.actorId) :
    checkNeighbours vector = checkConsecutive vector := by
  induction vector with
  | nil => rfl
  | cons a rest ih =>
      cases rest with
      | nil => rfl
      | cons b rest =>
          have ha := hint a List.mem_cons_self
          have hb := hint b (List.mem_cons_of_mem _ List.mem_cons_self)
          have hle : a.actorId ≤ b.actorId := (List.pairwise_cons.mp hsorted).1 b List.mem_cons_self
          have htail := ih (fun c hc => hint c (List.mem_cons_of_mem _ hc))
            (List.pairwise_cons.mp hsorted).2
          simp only [checkNeighbours, checkConsecutive, intAdd_one_eq ha hb hle, htail]

section

variable {sort : ActorSort} {connectionMap connectionVector vector : List ActorConnection}

/-- The checks that depend on the ids. -/
def checkIds : List ActorConnection → Except Error (List ActorConnection)
  | [] => .ok []
  | first :: others =>
      rsgEnforce (first.actorId = 2)
        s!"Minimal initial actor_id value is {first.actorId}, while I expected 2" <|
      (checkConsecutive (first :: others)).map fun _ => first :: others

theorem connectionsToVector_checks (hint : ∀ c ∈ connectionMap, InInt c.actorId) :
    connectionsToVector sort connectionMap connectionVector =
      checkIds (sort.sort connectionMap) := by
  have hperm := sort.perm connectionMap
  have hsorted := sort.sorted connectionMap
  have hnil : sort.sort [] = [] := List.perm_nil.mp (sort.perm [])
  simp only [connectionsToVector, vectorClear, foldl_push_back, List.nil_append]
  cases hmap : connectionMap with
  | nil =>
      rw [List.isEmpty_nil, if_pos rfl, hnil]
      rfl
  | cons c rest =>
      rw [List.isEmpty_cons, if_neg Bool.false_ne_true, ← hmap]
      cases hvector : sort.sort connectionMap with
      | nil => rfl
      | cons first others =>
          rw [hvector] at hperm hsorted
          have hsame := checkNeighbours_eq (fun c hc => hint c (hperm.mem_iff.mp hc)) hsorted
          simp only [checkIds, hsame, hperm.length_eq, rsgEnforce, if_true]
          cases checkConsecutive (first :: others) <;> rfl

/-- The ids are `2, …, n+1`, each once. -/
def InitialIds (connectionMap : List ActorConnection) : Prop :=
  (connectionMap.map (·.actorId)).Nodup ∧
    ∀ id : Int, id ∈ connectionMap.map (·.actorId) ↔ 2 ≤ id ∧ id ≤ connectionMap.length + 1

theorem initialIds_iff_perm :
    InitialIds connectionMap ↔
      (connectionMap.map (·.actorId)).Perm (consecutiveIds 2 connectionMap.length) := by
  constructor
  · rintro ⟨hnodup, hids⟩
    rw [List.perm_ext_iff_of_nodup hnodup (nodup_consecutiveIds _ _)]
    intro id
    rw [hids, mem_consecutiveIds]
    push_cast
    omega
  · intro hperm
    refine ⟨hperm.nodup_iff.mpr (nodup_consecutiveIds _ _), fun id => ?_⟩
    rw [hperm.mem_iff, mem_consecutiveIds]
    push_cast
    omega

theorem connectionsToVector_ok (hint : ∀ c ∈ connectionMap, InInt c.actorId)
    (hids : InitialIds connectionMap) :
    connectionsToVector sort connectionMap connectionVector = .ok (sort.sort connectionMap) := by
  have hperm := sort.perm connectionMap
  have hsorted := map_actorId_of_sorted ((hperm.map _).trans (initialIds_iff_perm.mp hids))
    (sort.sorted connectionMap)
  rw [connectionsToVector_checks hint]
  cases hvector : sort.sort connectionMap with
  | nil => rfl
  | cons first others =>
      rw [hvector] at hsorted
      have hfirst : first.actorId = 2 := by
        cases hlength : connectionMap.length with
        | zero => simp [hlength, consecutiveIds] at hsorted
        | succ n =>
            simp only [hlength, consecutiveIds, List.range'_succ, List.map_cons,
              List.cons.injEq] at hsorted
            exact hsorted.1
      simp only [checkIds, checkConsecutive_of_map hsorted, rsgEnforce, hfirst, if_true]
      rfl

theorem initialIds_of_ok (hint : ∀ c ∈ connectionMap, InInt c.actorId)
    (h : connectionsToVector sort connectionMap connectionVector = .ok vector) :
    InitialIds connectionMap := by
  have hperm := sort.perm connectionMap
  rw [connectionsToVector_checks hint] at h
  rw [initialIds_iff_perm]
  cases hvector : sort.sort connectionMap with
  | nil =>
      rw [hvector] at hperm
      obtain rfl := List.nil_perm.mp hperm
      exact List.Perm.nil
  | cons first others =>
      rw [hvector] at hperm
      simp only [hvector, checkIds, rsgEnforce_eq_ok] at h
      obtain ⟨hfirst, h⟩ := h
      cases hcheck : checkConsecutive (first :: others) with
      | error e =>
          rw [hcheck] at h
          cases h
      | ok result =>
          have hids := map_actorId_of_checkConsecutive hcheck hfirst
          rw [← hperm.length_eq]
          exact (hperm.map _).symm.trans (hids ▸ List.Perm.refl _)

/-- Vectors of the same connections in the order of different ids are the same. -/
theorem eq_of_sorted {vector vector' : List ActorConnection} (hperm : vector.Perm vector')
    (hvector : vector.Pairwise fun a b => a.actorId ≤ b.actorId)
    (hvector' : vector'.Pairwise fun a b => a.actorId ≤ b.actorId)
    (hnodup : (vector.map (·.actorId)).Nodup) : vector = vector' := by
  refine List.Perm.eq_of_pairwise (fun a b ha hb hle hge => ?_) hvector hvector' hperm
  have hid : a.actorId = b.actorId := le_antisymm hle hge
  exact List.inj_on_of_nodup_map hnodup ha (hperm.mem_iff.mpr hb) hid

end

/-- The conversion of the connection map returns normally just when the ids are `2, …, n+1`, each once.
The result is then the connections by ascending id, whatever the iteration order, the sorting function
and the contents of the vector. -/
theorem connectionsToVector_spec (sort : ActorSort)
    (connectionMap connectionVector : List ActorConnection)
    (hint : ∀ c ∈ connectionMap, InInt c.actorId) :
    ((∃ vector, connectionsToVector sort connectionMap connectionVector = .ok vector) ↔
      InitialIds connectionMap) ∧
    ∀ vector, connectionsToVector sort connectionMap connectionVector = .ok vector →
      vector.Perm connectionMap ∧ (vector.Pairwise fun a b => a.actorId < b.actorId) ∧
        ∀ sort' connectionMap' connectionVector', connectionMap'.Perm connectionMap →
          connectionsToVector sort' connectionMap' connectionVector' = .ok vector := by
  refine ⟨⟨fun ⟨vector, hvector⟩ => initialIds_of_ok hint hvector,
    fun hids => ⟨_, connectionsToVector_ok hint hids⟩⟩, fun vector hvector => ?_⟩
  have hids := initialIds_of_ok hint hvector
  rw [connectionsToVector_ok hint hids] at hvector
  cases hvector
  have hperm := sort.perm connectionMap
  have hnodup : ((sort.sort connectionMap).map (·.actorId)).Nodup :=
    (hperm.map _).nodup_iff.mpr hids.1
  refine ⟨hperm, ?_, fun sort' connectionMap' connectionVector' hmap => ?_⟩
  · have hne := List.pairwise_map.mp hnodup
    exact ((sort.sorted connectionMap).and hne).imp fun h => lt_of_le_of_ne h.1 h.2
  · have hids' : InitialIds connectionMap' := by
      rw [initialIds_iff_perm] at hids ⊢
      rw [hmap.length_eq]
      exact (hmap.map _).trans hids
    rw [connectionsToVector_ok (fun c hc => hint c (hmap.mem_iff.mp hc)) hids']
    have hsame := eq_of_sorted (hperm.trans (hmap.symm.trans (sort'.perm connectionMap').symm))
      (sort.sorted connectionMap) (sort'.sorted connectionMap') hnodup
    rw [hsame]

def ActorSort.insertion : ActorSort where
  sort connections := connections.insertionSort fun a b => a.actorId ≤ b.actorId
  perm connections := List.perm_insertionSort _ connections
  sorted connections := pairwise_insertionSort_actorId connections

/-- The start of the simulation calls this function. -/
theorem connectionsToVector_insertion {connectionMap : List ActorConnection}
    (hint : ∀ c ∈ connectionMap, InInt c.actorId) (connectionVector : List ActorConnection) :
    connectionsToVector .insertion connectionMap connectionVector =
      connectionsUnorderedmapToVector connectionMap := by
  have hperm := ActorSort.insertion.perm connectionMap
  rw [connectionsToVector_checks hint]
  simp only [connectionsUnorderedmapToVector, checkIds, ActorSort.insertion] at hperm ⊢
  cases hvector : connectionMap.insertionSort fun a b => a.actorId ≤ b.actorId with
  | nil => rfl
  | cons first others =>
      rw [hvector] at hperm
      simp only [hperm.length_eq, rsgEnforce, if_true]
      cases checkConsecutive (first :: others) <;> rfl

/-- Two initial actors, the second first in the iteration, and a vector that is not empty. -/
theorem connectionsToVector_spec_pair :
    connectionsToVector .insertion [{ actorId := 3 }, { actorId := 2 }] [{ actorId := 9 }] =
        .ok [{ actorId := 2 }, { actorId := 3 }] ∧
      InitialIds [{ actorId := 3 }, { actorId := 2 }] := by
  have hint : ∀ c ∈ [({ actorId := 3 } : ActorConnection), { actorId := 2 }], InInt c.actorId := by
    intro c hc
    rcases List.mem_pair.mp hc with rfl | rfl <;> exact ⟨by decide, by decide⟩
  have hspec := connectionsToVector_spec .insertion _ [{ actorId := 9 }] hint
  have hvector : connectionsToVector .insertion [{ actorId := 3 }, { actorId := 2 }]
      [{ actorId := 9 }] = .ok [{ actorId := 2 }, { actorId := 3 }] := by decide
  exact ⟨hvector, hspec.1.mp ⟨_, hvector⟩⟩

end RemoteSimgrid
