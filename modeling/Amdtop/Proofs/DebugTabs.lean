import Mathlib.Data.Finset.Card
import Mathlib.Data.List.Forall2
import Amdtop.DebugTabs
import Amdtop.Proofs.ClientInfo

/-!
# Rounds that stay inside the arrays

The Stat tab says that its array of 40 records has 100, and the Fence tab cannot say how long its
array is. A round stays inside, and reports no more records than it has stored there, just if the
text has no more records than that and the directory no more rings (`debug_tabs_inside`).
-/

namespace Amdtop

open Stdio

variable {α : Type}

section Rounds

variable (call : List α → Option (TabRound α)) (n : ℕ)

/-- In a memory that begins with an array of `n` records the call stores record `i`: the record is
afterwards the same, whatever the memory held. -/
def Stores (i : ℕ) : Prop :=
  ∃ record, ∀ records round, n ≤ records.length → call records = some round →
    round.records[i]? = some record

open Classical in
/-- The number of records the call stores in the array. -/
noncomputable def storedCount : ℕ := ((Finset.range n).filter (Stores call n)).card

/-- Nothing is written behind the array's `n` records or read there, and no more are reported than
are stored in it. -/
structure RoundsInside : Prop where
  written : ∀ records round, call records = some round →
    round.records.drop n = records.drop n
  reported : ∀ records round, call records = some round → round.ret = 0 →
    round.count ≤ storedCount call n
  read : ∀ records round, call records = some round → ∀ i ∈ round.reads, i < n

variable {call n}

theorem storedCount_le : storedCount call n ≤ n := by
  classical
  calc storedCount call n ≤ (Finset.range n).card := Finset.card_filter_le _ _
    _ = n := Finset.card_range n

theorem le_storedCount {k : ℕ} (hk : k ≤ n) (h : ∀ i < k, Stores call n i) :
    k ≤ storedCount call n := by
  classical
  have hsub : Finset.range k ⊆ (Finset.range n).filter (Stores call n) := fun i hi => by
    have hlt := Finset.mem_range.1 hi
    exact Finset.mem_filter.2 ⟨Finset.mem_range.2 (hlt.trans_le hk), h i hlt⟩
  calc k = (Finset.range k).card := (Finset.card_range k).symm
    _ ≤ storedCount call n := Finset.card_le_card hsub

end Rounds

/-! ## Clients -/

/-- The file after `n` records, if as many can be scanned whole. -/
def afterRecords : ℕ → File → Option File
  | 0, fp => some fp
  | n + 1, fp =>
    if fp.eof then none
    else if (fscanf fp clientFormat).1.count ≠ 7 then none
    else afterRecords n (fscanf fp clientFormat).2

/-- Where a scan stores nothing. -/
def NothingLeft (fp : File) : Prop := fp.eof = true ∨ (fscanf fp clientFormat).1.vals = []

theorem assign_nil (info : AmdGpuClientInfo) : info.assign [] = info := rfl

section Loop

variable {cap : ℕ}

theorem clientLoop_nothing {left : ℕ} {fp : File} {clientInfo : List AmdGpuClientInfo} {n : ℕ}
    (h : NothingLeft fp) : clientLoop left fp clientInfo n = (clientInfo, n) := by
  rcases left with _ | left
  · rfl
  rw [clientLoop.eq_2]
  split_ifs with heof
  · rfl
  have hvals := h.resolve_left heof
  have hcount : (fscanf fp clientFormat).1.count ≠ 7 := by
    unfold Scan.count
    rw [hvals]
    split_ifs <;> decide
  simp only [hcount, hvals, ne_eq, not_false_eq_true, if_true, assign_nil]
  rw [show (fun info : AmdGpuClientInfo => info) = id from rfl, List.modify_id]

/-- A file that has nothing left behind the array's last record leaves alone what is behind it. -/
theorem clientLoop_inside : ∀ (room left : ℕ) (fp : File) (clientInfo : List AmdGpuClientInfo)
    (n : ℕ), n + room = cap → (∀ fp', afterRecords room fp = some fp' → NothingLeft fp') →
    (clientLoop left fp clientInfo n).1.drop cap = clientInfo.drop cap
      ∧ (clientLoop left fp clientInfo n).2 ≤ cap
  | _, 0, _, _, _, hn, _ => ⟨rfl, by rw [clientLoop]; omega⟩
  | 0, _, fp, _, n, hn, h => by
    rw [clientLoop_nothing (h fp rfl)]
    exact ⟨rfl, by omega⟩
  | room + 1, left + 1, fp, clientInfo, n, hn, h => by
    unfold clientLoop
    split_ifs with heof
    · exact ⟨rfl, by omega⟩
    have hmod : (clientInfo.modify n (·.assign (fscanf fp clientFormat).1.vals)).drop cap
        = clientInfo.drop cap := List.drop_modify_of_lt _ _ _ _ (by omega)
    dsimp only
    split_ifs with hcount
    · exact ⟨hmod, by omega⟩
    · have hrest : ∀ fp', afterRecords room (fscanf fp clientFormat).2 = some fp' →
          NothingLeft fp' := fun fp' h' =>
        h fp' (by rw [afterRecords, if_neg heof, if_neg hcount]; exact h')
      rw [← hmod]
      exact clientLoop_inside room left _ _ (n + 1) (by omega) hrest

/-- The loop goes through the records that can be scanned. -/
theorem clientLoop_after : ∀ (room left : ℕ) (fp fp' : File) (clientInfo : List AmdGpuClientInfo)
    (n : ℕ), afterRecords room fp = some fp' →
    ∃ clientInfo', clientLoop (room + left) fp clientInfo n
        = clientLoop left fp' clientInfo' (n + room)
      ∧ clientInfo'.drop (n + room) = clientInfo.drop (n + room)
  | 0, left, fp, fp', clientInfo, n, h => by
    obtain rfl := Option.some.inj h
    exact ⟨clientInfo, by rw [Nat.zero_add, Nat.add_zero], rfl⟩
  | room + 1, left, fp, fp', clientInfo, n, h => by
    unfold afterRecords at h
    split_ifs at h with heof hcount
    obtain ⟨clientInfo', hloop, hdrop⟩ := clientLoop_after room left _ fp'
      (clientInfo.modify n (·.assign (fscanf fp clientFormat).1.vals)) (n + 1) h
    rw [Nat.add_right_comm n 1 room] at hloop hdrop
    refine ⟨clientInfo', ?_, ?_⟩
    · rw [show room + 1 + left = room + left + 1 by omega, clientLoop.eq_2, if_neg heof]
      dsimp only
      rw [if_neg hcount, hloop]
      rfl
    · rw [← Nat.add_assoc, hdrop]
      exact List.drop_modify_of_lt _ _ _ _ (by omega)

/-- What a scan stores begins with the command. -/
theorem scan_command (cs : List Char) : (scan (parseFormat clientFormat) cs).vals = []
    ∨ ∃ s vals, (scan (parseFormat clientFormat) cs).vals = .str s :: vals := by
  rw [parse_clientFormat, scan]
  unfold Conv.read
  dsimp only
  rcases cs.dropWhile isSpace with _ | ⟨c, cs⟩
  · exact Or.inl rfl
  · exact Or.inr ⟨_, _, rfl⟩

/-- A record more is stored behind the array, or a part of one. -/
theorem clientLoop_outside (left : ℕ) {fp fp' : File} (h : afterRecords cap fp = some fp')
    (hleft : ¬ NothingLeft fp') : ∃ clientInfo,
    ¬ ((clientLoop (cap + (left + 1)) fp clientInfo 0).1.drop cap = clientInfo.drop cap
      ∧ (clientLoop (cap + (left + 1)) fp clientInfo 0).2 ≤ cap) := by
  obtain ⟨heof, hvals⟩ := not_or.1 hleft
  obtain hnil | ⟨s, vals, hscan⟩ := scan_command fp'.rest
  · exact absurd hnil hvals
  have hscan : (fscanf fp' clientFormat).1.vals = .str s :: vals := hscan
  let other : AmdGpuClientInfo := ⟨'a' :: s, 0, 0, 'n', 'n', 0, 0⟩
  refine ⟨List.replicate (cap + 1) other, ?_⟩
  rintro ⟨hdrop, hcount⟩
  obtain ⟨clientInfo', hloop, hdrop'⟩ :=
    clientLoop_after cap (left + 1) fp fp' (List.replicate (cap + 1) other) 0 h
  rw [Nat.zero_add] at hloop hdrop'
  rw [hloop, clientLoop.eq_2, if_neg heof] at hdrop hcount
  dsimp only at hdrop hcount
  split_ifs at hdrop hcount with hseven
  · rw [List.drop_modify_of_ge _ _ _ _ le_rfl, hdrop', Nat.sub_self, hscan] at hdrop
    have hother : other.assign (.str s :: vals) = other := by
      simpa [List.drop_replicate] using hdrop
    exact List.cons_ne_self 'a' s (congrArg AmdGpuClientInfo.command hother).symm
  · have hle := (clientLoop_frame left (fscanf fp' clientFormat).2
      (clientInfo'.modify cap (·.assign (fscanf fp' clientFormat).1.vals)) (cap + 1)).2
    omega

end Loop

/-- Behind the fortieth record of a file with a header the scans store nothing. -/
def ClientsFit (files : Files) (device : GpuDevice) : Prop :=
  ∀ fp, files (debugFile device "clients") = some fp →
    (strstr ((fgets 1024 fp).1.getD []) "master".toList).isSome →
    ∀ fp', afterRecords maxClientCount (fgets 1024 fp).2 = some fp' → NothingLeft fp'

theorem query_clients_iff (files : Files) (device : GpuDevice) :
    (∀ clientInfo, (amdGpuQueryClientInfo files device clientInfo maxNameSize).2.1.drop
          maxClientCount = clientInfo.drop maxClientCount
        ∧ ((amdGpuQueryClientInfo files device clientInfo maxNameSize).1 = 0 →
          (amdGpuQueryClientInfo files device clientInfo maxNameSize).2.2 ≤ maxClientCount))
      ↔ ClientsFit files device := by
  unfold amdGpuQueryClientInfo ClientsFit
  rcases files (debugFile device "clients") with _ | fp
  · exact iff_of_true (fun _ => ⟨rfl, fun h => absurd h (show -eacces ≠ 0 by decide)⟩)
      fun _ h => nomatch h
  simp only [Option.some.injEq, forall_eq']
  rcases strstr ((fgets 1024 fp).1.getD []) "master".toList with _ | m
  · exact iff_of_true (fun _ => ⟨rfl, fun h => absurd h (show -einval ≠ 0 by decide)⟩)
      fun h => nomatch h
  simp only [Option.isNone_some, Bool.false_eq_true, if_false, Option.isSome_some, true_imp_iff]
  constructor
  · intro h fp' hafter
    by_contra hleft
    obtain ⟨clientInfo, hout⟩ := clientLoop_outside 59 hafter hleft
    exact hout (h clientInfo)
  · exact fun h clientInfo => clientLoop_inside maxClientCount maxNameSize _ clientInfo 0 rfl h

/-! ## The records of the file -/

/-- A record with nothing in it. -/
def noClient : AmdGpuClientInfo := ⟨[], 0, 0, '\x00', '\x00', 0, 0⟩

/-- The records of a text that can be scanned whole, as many as there is room for. -/
def scanRecords : ℕ → File → List AmdGpuClientInfo
  | 0, _ => []
  | left + 1, fp =>
    if fp.eof then []
    else if (fscanf fp clientFormat).1.count ≠ 7 then []
    else noClient.assign (fscanf fp clientFormat).1.vals
      :: scanRecords left (fscanf fp clientFormat).2

/-- The clients of the card's file. -/
def fileClients (files : Files) (device : GpuDevice) : List AmdGpuClientInfo :=
  match files (debugFile device "clients") with
  | none => []
  | some fp =>
    if (strstr ((fgets 1024 fp).1.getD []) "master".toList).isNone then []
    else scanRecords maxNameSize (fgets 1024 fp).2

theorem length_of_count {r : Scan} (h : r.count = 7) : r.vals.length = 7 := by
  unfold Scan.count at h
  split_ifs at h
  exact_mod_cast h

/-- A record scanned whole has nothing of the old one. -/
theorem assign_whole {fp : File} (h : (fscanf fp clientFormat).1.count = 7)
    (info : AmdGpuClientInfo) : info.assign (fscanf fp clientFormat).1.vals
      = noClient.assign (fscanf fp clientFormat).1.vals := by
  obtain ⟨n, hvals⟩ := scan_stores (parseFormat clientFormat) fp.rest
  have hlen := length_of_count h
  change List.Forall₂ _ _ (fscanf fp clientFormat).1.vals at hvals
  generalize (fscanf fp clientFormat).1.vals = vals at hvals hlen
  rw [parse_clientFormat] at hvals
  have htake := hvals.length_eq
  rw [hlen, List.length_take] at htake
  simp only [stored] at hvals htake
  rw [List.take_of_length_le (by simp only [List.length_cons, List.length_nil] at htake ⊢; omega)]
    at hvals
  rcases hvals with _ | ⟨h1, _ | ⟨h2, _ | ⟨h3, _ | ⟨h4, _ | ⟨h5, _ | ⟨h6, _ | ⟨h7, _ | _⟩⟩⟩⟩⟩⟩⟩
  obtain ⟨command, rfl⟩ := h1.word
  obtain ⟨pid, rfl⟩ := h2.num (by decide)
  obtain ⟨dev, rfl⟩ := h3.num (by decide)
  obtain ⟨master, rfl⟩ := h4.char
  obtain ⟨a, rfl⟩ := h5.char
  obtain ⟨uid, rfl⟩ := h6.num (by decide)
  obtain ⟨magic, rfl⟩ := h7.num (by decide)
  rfl

theorem clientLoop_count : ∀ (left : ℕ) (fp : File) (clientInfo : List AmdGpuClientInfo) (n : ℕ),
    (clientLoop left fp clientInfo n).2 = n + (scanRecords left fp).length
  | 0, _, _, _ => rfl
  | left + 1, fp, clientInfo, n => by
    unfold clientLoop scanRecords
    dsimp only
    split_ifs
    · rfl
    · rfl
    · rw [clientLoop_count left, List.length_cons]
      omega

/-- The records stored are those of the text, whatever was there before. -/
theorem clientLoop_records : ∀ (left : ℕ) (fp : File) (clientInfo : List AmdGpuClientInfo) (n : ℕ),
    n + (scanRecords left fp).length ≤ clientInfo.length →
    (clientLoop left fp clientInfo n).1.take (n + (scanRecords left fp).length)
      = clientInfo.take n ++ scanRecords left fp
  | 0, _, _, _, _ => by
    rw [clientLoop, scanRecords, List.append_nil]
    rfl
  | left + 1, fp, clientInfo, n, h => by
    unfold clientLoop scanRecords at *
    dsimp only at *
    split_ifs at * with heof hcount
    · rw [List.append_nil]
      rfl
    · rw [List.append_nil, List.length_nil, Nat.add_zero, List.take_modify,
        List.modify_eq_self (by simp)]
    · rw [List.length_cons] at h ⊢
      rw [show n + ((scanRecords left (fscanf fp clientFormat).2).length + 1)
        = n + 1 + (scanRecords left (fscanf fp clientFormat).2).length by omega,
        clientLoop_records left _ _ (n + 1) (by rw [List.length_modify]; omega),
        take_succ_modify (by omega), assign_whole (not_not.1 hcount), List.append_assoc]
      rfl

/-- Whether a query succeeds does not depend on what the array held. -/
theorem query_ret (files : Files) (device : GpuDevice) (clientInfos clientInfos' :
    List AmdGpuClientInfo) : (amdGpuQueryClientInfo files device clientInfos maxNameSize).1
      = (amdGpuQueryClientInfo files device clientInfos' maxNameSize).1 := by
  unfold amdGpuQueryClientInfo
  rcases files (debugFile device "clients") with _ | fp
  · rfl
  · dsimp only
    split_ifs <;> rfl

/-- A query that succeeds is the loop over the records. -/
theorem query_ok {files : Files} {device : GpuDevice} {clientInfos : List AmdGpuClientInfo}
    (hret : (amdGpuQueryClientInfo files device clientInfos maxNameSize).1 = 0) :
    ∃ fp, fileClients files device = scanRecords maxNameSize fp
      ∧ ∀ clientInfos, amdGpuQueryClientInfo files device clientInfos maxNameSize
        = (0, clientLoop maxNameSize fp clientInfos 0) := by
  unfold fileClients
  unfold amdGpuQueryClientInfo at hret ⊢
  rcases hfile : files (debugFile device "clients") with _ | fp <;> rw [hfile] at hret
  · exact absurd hret (show -eacces ≠ 0 by decide)
  dsimp only at hret ⊢
  split_ifs at hret ⊢ with hmaster
  · exact absurd hret (show -einval ≠ 0 by decide)
  · exact ⟨_, rfl, fun _ => rfl⟩

/-- As many records are reported as the file has clients. -/
theorem query_count {files : Files} {device : GpuDevice} {clientInfos : List AmdGpuClientInfo}
    (hret : (amdGpuQueryClientInfo files device clientInfos maxNameSize).1 = 0) :
    (amdGpuQueryClientInfo files device clientInfos maxNameSize).2.2
      = (fileClients files device).length := by
  obtain ⟨fp, hclients, hquery⟩ := query_ok hret
  rw [hquery, hclients]
  exact (clientLoop_count maxNameSize fp clientInfos 0).trans (Nat.zero_add _)

/-- And they are those clients. -/
theorem query_records {files : Files} {device : GpuDevice} (hfit : ClientsFit files device)
    {clientInfos : List AmdGpuClientInfo} (hlen : maxClientCount ≤ clientInfos.length)
    (hret : (amdGpuQueryClientInfo files device clientInfos maxNameSize).1 = 0) :
    (amdGpuQueryClientInfo files device clientInfos maxNameSize).2.1.take
        (fileClients files device).length = fileClients files device := by
  have hle := ((query_clients_iff files device).2 hfit clientInfos).2 hret
  rw [query_count hret] at hle
  obtain ⟨fp, hclients, hquery⟩ := query_ok hret
  rw [hclients] at hle ⊢
  have hrecords := clientLoop_records maxNameSize fp clientInfos 0 (by omega)
  rw [Nat.zero_add] at hrecords
  rw [hquery]
  exact hrecords

section Round

variable {files : Files} {device : GpuDevice} (uiClientsCount : ℕ)
  {clientInfos : List AmdGpuClientInfo}

theorem updateClientInfo_ok
    (hret : (amdGpuQueryClientInfo files device clientInfos maxNameSize).1 = 0) :
    updateClientInfo files device true uiClientsCount clientInfos
      = ⟨0, (amdGpuQueryClientInfo files device clientInfos maxNameSize).2.1,
        (amdGpuQueryClientInfo files device clientInfos maxNameSize).2.2,
        (List.range uiClientsCount).filter
          (· < (amdGpuQueryClientInfo files device clientInfos maxNameSize).2.2)⟩ :=
  if_neg (not_not.2 hret)

theorem updateClientInfo_failed
    (hret : (amdGpuQueryClientInfo files device clientInfos maxNameSize).1 ≠ 0) :
    updateClientInfo files device true uiClientsCount clientInfos
      = ⟨(amdGpuQueryClientInfo files device clientInfos maxNameSize).1,
        (amdGpuQueryClientInfo files device clientInfos maxNameSize).2.1,
        (amdGpuQueryClientInfo files device clientInfos maxNameSize).2.2, []⟩ :=
  if_pos hret

end Round

theorem stores_client {files : Files} {device : GpuDevice} (hfit : ClientsFit files device)
    (uiClientsCount : ℕ) {clientInfos : List AmdGpuClientInfo}
    (hret : (amdGpuQueryClientInfo files device clientInfos maxNameSize).1 = 0) {i : ℕ}
    (hi : i < (fileClients files device).length) : Stores (fun clientInfos =>
      some (updateClientInfo files device true uiClientsCount clientInfos)) maxClientCount i := by
  refine ⟨(fileClients files device)[i], ?_⟩
  rintro clientInfos' _ hlen ⟨⟩
  have hret' := (query_ret files device clientInfos' clientInfos).trans hret
  rw [updateClientInfo_ok uiClientsCount hret']
  rw [← List.getElem?_take_of_lt hi, query_records hfit hlen hret', List.getElem?_eq_getElem hi]

theorem update_client_info_inside (files : Files) (device : GpuDevice) (root : Bool)
    (uiClientsCount : ℕ) :
    RoundsInside (fun clientInfos =>
        some (updateClientInfo files device root uiClientsCount clientInfos)) maxClientCount
      ↔ (root = true → ClientsFit files device) := by
  rcases root
  · refine iff_of_true ⟨?_, ?_, ?_⟩ fun h => nomatch h
    all_goals rintro records _ ⟨⟩
    · rfl
    · exact fun _ => Nat.zero_le _
    · exact fun _ hmem => nomatch hmem
  rw [eq_self, true_imp_iff]
  constructor
  · intro h
    refine (query_clients_iff files device).1 fun clientInfos => ?_
    have hwritten := h.written clientInfos _ rfl
    by_cases hret : (amdGpuQueryClientInfo files device clientInfos maxNameSize).1 = 0
    · have hreported := h.reported clientInfos _ rfl
      rw [updateClientInfo_ok uiClientsCount hret] at hwritten hreported
      exact ⟨hwritten, fun _ => (hreported rfl).trans storedCount_le⟩
    · rw [updateClientInfo_failed uiClientsCount hret] at hwritten
      exact ⟨hwritten, fun h0 => absurd h0 hret⟩
  · intro hfit
    have hquery := (query_clients_iff files device).2 hfit
    refine ⟨?_, ?_, ?_⟩
    all_goals rintro clientInfos _ ⟨⟩
    all_goals by_cases hret : (amdGpuQueryClientInfo files device clientInfos maxNameSize).1 = 0
    · rw [updateClientInfo_ok uiClientsCount hret]
      exact (hquery clientInfos).1
    · rw [updateClientInfo_failed uiClientsCount hret]
      exact (hquery clientInfos).1
    · intro _
      have hle := (hquery clientInfos).2 hret
      rw [updateClientInfo_ok uiClientsCount hret]
      rw [query_count hret] at hle ⊢
      exact le_storedCount hle fun i hi => stores_client hfit uiClientsCount hret hi
    · rw [updateClientInfo_failed uiClientsCount hret]
      exact fun h0 => absurd h0 hret
    · rw [updateClientInfo_ok uiClientsCount hret]
      intro i hi
      have hlt := of_decide_eq_true (List.mem_filter.1 hi).2
      exact lt_of_lt_of_le hlt ((hquery clientInfos).2 hret)
    · rw [updateClientInfo_failed uiClientsCount hret]
      exact fun _ hmem => nomatch hmem

/-! ## What the kernel writes -/

section Kernel

variable {records : List AmdGpuClientInfo}

theorem fscanf_seven {fp : File} {r : AmdGpuClientInfo} (hv : ∀ r' ∈ r :: records, r'.Valid)
    (hs : r.Short) (h : AtRecords fp (r :: records)) : (fscanf fp clientFormat).1.count = 7 := by
  rw [Scan.count, (at_next hv hs h).1]
  simp [clientVals]

theorem nothingLeft_iff {fp : File} (hv : ∀ r ∈ records, r.Valid) (hs : ∀ r ∈ records, r.Short)
    (h : AtRecords fp records) : NothingLeft fp ↔ records = [] := by
  rcases records with _ | ⟨r, records⟩
  · refine iff_of_true (Or.inr ?_) rfl
    rw [fscanf_at h]
    rfl
  · refine iff_of_false (fun hleft => ?_) (List.cons_ne_nil r records)
    rcases hleft with heof | hvals
    · exact List.cons_ne_nil r records (h.eof heof)
    · rw [(at_next hv (hs r List.mem_cons_self) h).1] at hvals
      exact nomatch hvals

theorem afterRecords_at : ∀ (room : ℕ) {records : List AmdGpuClientInfo} {fp : File},
    (∀ r ∈ records, r.Valid) → (∀ r ∈ records, r.Short) → AtRecords fp records →
    ((∀ fp', afterRecords room fp = some fp' → NothingLeft fp') ↔ records.length ≤ room)
  | 0, records, fp, hv, hs, h => by
    rw [Nat.le_zero, List.length_eq_zero_iff, ← nothingLeft_iff hv hs h]
    exact ⟨fun hall => hall fp rfl, fun hleft _ h' => Option.some.inj h' ▸ hleft⟩
  | room + 1, [], fp, hv, hs, h => by
    refine iff_of_true (fun fp' h' => ?_) (Nat.zero_le _)
    have hcount : (fscanf fp clientFormat).1.count ≠ 7 := by
      rw [fscanf_at h]
      decide
    unfold afterRecords at h'
    split_ifs at h'
  | room + 1, r :: records, fp, hv, hs, h => by
    have heof : ¬ fp.eof = true := fun heof => List.cons_ne_nil r records (h.eof heof)
    have hr := hs r List.mem_cons_self
    have hcount := fscanf_seven hv hr h
    rw [List.length_cons, Nat.add_le_add_iff_right, ← afterRecords_at room
      (fun r' hr' => hv r' (List.mem_cons_of_mem r hr'))
      (fun r' hr' => hs r' (List.mem_cons_of_mem r hr')) (at_next hv hr h).2]
    rw [afterRecords, if_neg heof, if_neg (not_not.2 hcount)]

/-- Of what the kernel writes, with numbers of at most five digits, forty records fit. -/
theorem clientsFit_iff {files : Files} {device : GpuDevice} {header : List Char}
    (hfile : files (debugFile device "clients") = some { rest := clientsText header records })
    (hline : '\n' ∉ header) (hblank : ∀ c ∈ header.drop 1023, isSpace c = true)
    (hmaster : "master".toList <:+: header.take 1023) (hv : ∀ r ∈ records, r.Valid)
    (hs : ∀ r ∈ records, r.Short) :
    ClientsFit files device ↔ records.length ≤ maxClientCount := by
  obtain ⟨l, rest, hget, hin, hat⟩ := fgets_header records hline
  unfold ClientsFit
  rw [hfile]
  simp only [Option.some.injEq, forall_eq', hget, Option.getD_some]
  rw [forall_prop_of_true ((strstr_isSome_iff _ _).2 (hin.2 hmaster))]
  exact afterRecords_at maxClientCount hv hs (hat hblank)

end Kernel

/-! ## Rings -/

/-- The rings in the directory. -/
def ringNames (names : List (List Char)) : List (List Char) := names.filter isRingName

theorem ringLoop_spec (device : GpuDevice) : ∀ (names : List (List Char))
    (gpuRing : List AmdGpuRingInfo) (n : ℕ),
    (ringLoop device names gpuRing n).2 = n + (ringNames names).length
      ∧ ∀ cap, n + (ringNames names).length ≤ cap →
        (ringLoop device names gpuRing n).1.drop cap = gpuRing.drop cap
  | [], _, _ => ⟨rfl, fun _ _ => rfl⟩
  | name :: names, gpuRing, n => by
    unfold ringLoop ringNames
    split_ifs with hring
    · obtain ⟨hcount, hdrop⟩ := ringLoop_spec device names
        (gpuRing.modify n fun r => { parseRingInfo r name with device }) (n + 1)
      rw [List.filter_cons_of_pos hring, List.length_cons, ← Nat.add_assoc, Nat.add_right_comm]
      refine ⟨hcount, fun cap hcap => ?_⟩
      rw [hdrop cap hcap]
      exact List.drop_modify_of_lt _ _ _ _ (by omega)
    · rw [List.filter_cons_of_neg hring]
      exact ringLoop_spec device names gpuRing n

/-- The record of a ring. -/
def ringRecord (device : GpuDevice) (name : List Char) : AmdGpuRingInfo :=
  { parseRingInfo ⟨⟨device, []⟩, .unknow, [], 0, 0, 0⟩ name with device }

/-- A record has nothing of the old one. -/
theorem parseRingInfo_record (device : GpuDevice) (r : AmdGpuRingInfo) (name : List Char) :
    { parseRingInfo r name with device } = ringRecord device name := by
  unfold ringRecord parseRingInfo
  dsimp only
  split_ifs <;> rfl

theorem ringLoop_records (device : GpuDevice) : ∀ (names : List (List Char))
    (gpuRing : List AmdGpuRingInfo) (n : ℕ), n + (ringNames names).length ≤ gpuRing.length →
    (ringLoop device names gpuRing n).1.take (n + (ringNames names).length)
      = gpuRing.take n ++ (ringNames names).map (ringRecord device)
  | [], _, _, _ => (List.append_nil _).symm
  | name :: names, gpuRing, n, h => by
    unfold ringLoop ringNames at *
    split_ifs with hring
    · rw [List.filter_cons_of_pos hring, List.length_cons] at h ⊢
      rw [show n + ((names.filter isRingName).length + 1)
        = n + 1 + (names.filter isRingName).length by omega]
      refine (ringLoop_records device names _ (n + 1)
        (by rw [List.length_modify]; unfold ringNames; omega)).trans ?_
      rw [List.map_cons, ← List.singleton_append, ← List.append_assoc, List.take_add_one,
        List.take_modify, List.modify_eq_self (by simp), List.getElem?_modify_eq,
        List.getElem?_eq_getElem (by omega)]
      refine congrArg (· ++ _) (congrArg (_ ++ [·]) ?_)
      exact parseRingInfo_record device _ name
    · rw [List.filter_cons_of_neg hring] at h ⊢
      exact ringLoop_records device names gpuRing n h

/-- The directory has no more rings than the array. -/
def RingsFit (dirs : Dirs) (device : GpuDevice) : Prop :=
  ∀ names, dirs (debugDir device) = some names → (ringNames names).length ≤ maxRingCount

/-- The call, where the directory can be opened. -/
theorem updateFenceInfo_ok {dirs : Dirs} {device : GpuDevice} {names : List (List Char)}
    (hdir : dirs (debugDir device) = some names) (gpuRings : List AmdGpuRingInfo) :
    updateFenceInfo dirs device true gpuRings
      = some ⟨0, (ringLoop device names gpuRings 0).1, (ringNames names).length,
        List.range (ringNames names).length⟩ := by
  have hcount := (ringLoop_spec device names gpuRings 0).1
  rw [Nat.zero_add] at hcount
  rw [updateFenceInfo, amdGpuRingInfo, hdir, ← hcount]
  rfl

theorem stores_ring {dirs : Dirs} {device : GpuDevice} {names : List (List Char)}
    (hdir : dirs (debugDir device) = some names) (hfit : (ringNames names).length ≤ maxRingCount)
    {i : ℕ} (hi : i < (ringNames names).length) :
    Stores (updateFenceInfo dirs device true) maxRingCount i := by
  refine ⟨ringRecord device (ringNames names)[i], fun gpuRings round hlen hround => ?_⟩
  rw [updateFenceInfo_ok hdir] at hround
  obtain rfl := Option.some.inj hround
  have hrecords := ringLoop_records device names gpuRings 0 (by omega)
  rw [Nat.zero_add, List.take_zero, List.nil_append] at hrecords
  rw [← List.getElem?_take_of_lt hi, hrecords, List.getElem?_map, List.getElem?_eq_getElem hi]
  rfl

theorem update_fence_info_inside (dirs : Dirs) (device : GpuDevice) (root : Bool) :
    RoundsInside (updateFenceInfo dirs device root) maxRingCount
      ↔ (root = true → RingsFit dirs device) := by
  rcases root
  · refine iff_of_true ⟨?_, ?_, ?_⟩ fun h => nomatch h
    all_goals rintro records _ ⟨⟩
    · rfl
    · exact fun _ => Nat.zero_le _
    · exact fun _ hmem => nomatch hmem
  rw [eq_self, true_imp_iff]
  rcases hdir : dirs (debugDir device) with _ | names
  · have hnone : ∀ gpuRings, updateFenceInfo dirs device true gpuRings = none := fun _ => by
      rw [updateFenceInfo, amdGpuRingInfo, hdir]
      rfl
    refine iff_of_true ⟨?_, ?_, ?_⟩ fun names hnames => nomatch hdir.symm.trans hnames
    all_goals exact fun gpuRings _ h => nomatch (hnone gpuRings).symm.trans h
  have hcall := updateFenceInfo_ok hdir
  constructor
  · intro h names' hnames
    obtain rfl := Option.some.inj (hdir.symm.trans hnames)
    exact (h.reported [] _ (hcall []) rfl).trans storedCount_le
  · intro h
    have hle := h names hdir
    refine ⟨?_, ?_, ?_⟩
    all_goals
      intro gpuRings round hround
      obtain rfl := Option.some.inj ((hcall gpuRings).symm.trans hround)
    · exact (ringLoop_spec device names gpuRings 0).2 _ (by omega)
    · exact fun _ => le_storedCount hle fun i hi => stores_ring hdir hle hi
    · exact fun i hi => (List.mem_range.1 hi).trans_le hle

/-! ## Both -/

/-- Whatever memory the arrays are in, a round of each tab stays inside its array. -/
def TabsInside (files : Files) (dirs : Dirs) (device : GpuDevice) (root : Bool)
    (uiClientsCount : ℕ) : Prop :=
  RoundsInside (fun clientInfos =>
      some (updateClientInfo files device root uiClientsCount clientInfos)) maxClientCount
    ∧ RoundsInside (updateFenceInfo dirs device root) maxRingCount

/-- The tabs stay inside their arrays just if they may not read the files, or there are no more
records than an array has room for. -/
theorem debug_tabs_inside (files : Files) (dirs : Dirs) (device : GpuDevice) (root : Bool)
    (uiClientsCount : ℕ) : TabsInside files dirs device root uiClientsCount
      ↔ (root = true → ClientsFit files device ∧ RingsFit dirs device) := by
  unfold TabsInside
  rw [update_client_info_inside, update_fence_info_inside, ← imp_and]

section Example

/-- One record more than there is room for. -/
def manyClients : Files := fun _ =>
  some { rest := clientsText clientsHeader (List.replicate 41 xorg) }

theorem debug_tabs_outside : ¬ TabsInside manyClients (fun _ => none) card0 true 10 := by
  intro h
  have hcount := h.1.reported (List.replicate maxClientCount xorg) _ rfl (by decide +kernel)
  exact absurd (hcount.trans storedCount_le) (by decide +kernel)

end Example

end Amdtop
