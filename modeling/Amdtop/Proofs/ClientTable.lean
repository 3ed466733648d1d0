import Mathlib.Data.List.Forall2
import Amdtop.ClientTable
import Amdtop.Proofs.DebugTabs

/-!
# The table shows the clients

A record is shown with the name of its user, if there is one, and as not authenticated unless its
flag is `a`, which the kernel does not write. Its text has to end before the edge of the window, and
has to cover what an earlier round has left on the row (`client_table_iff`).
-/

namespace Amdtop

open Stdio

/-! ## Rows -/

theorem mapM_eq_some {α β : Type} {f : α → Option β} : ∀ {l : List α} {ys : List β},
    l.mapM f = some ys ↔ List.Forall₂ (fun a b => f a = some b) l ys
  | [], ys => by
    rw [List.mapM_nil, List.forall₂_nil_left_iff]
    exact Option.some_inj.trans eq_comm
  | a :: l, ys => by
    rw [List.mapM_cons, List.forall₂_cons_left_iff]
    constructor
    · intro h
      rcases hfa : f a with _ | b
      · rw [hfa] at h
        cases h
      rcases hfl : l.mapM f with _ | bs
      · rw [hfa, hfl] at h
        cases h
      rw [hfa, hfl] at h
      exact ⟨b, bs, rfl, mapM_eq_some.1 hfl, (Option.some.inj h).symm⟩
    · rintro ⟨b, bs, hfa, hbs, rfl⟩
      rw [hfa, mapM_eq_some.2 hbs]
      rfl

/-! ## One row -/

/-- What a row of the table is printed from: the text of a client, or blanks. -/
abbrev RowText := Option (List Char)

section Row

variable (maxx : ℕ)

/-- The cells a print covers. -/
def Covers : RowText → ℕ → Prop
  | none, m => 2 ≤ m ∧ m < maxx - 3
  | some text, m => maxx / 20 ≤ m ∧ m < maxx / 20 + (TextWindow.expand (maxx / 20) text).length

instance : ∀ (text : RowText) (m : ℕ), Decidable (Covers maxx text m)
  | none, m => inferInstanceAs (Decidable (2 ≤ m ∧ m < maxx - 3))
  | some _, _ => inferInstanceAs (Decidable (_ ∧ _))

/-- The characters it puts there. -/
def printed : RowText → ℕ → Char
  | none, _ => ' '
  | some text, m => (TextWindow.expand (maxx / 20) text).getD (m - maxx / 20) ' '

/-- A row after a print on it. -/
def rowCells (old : ℕ → Char) (text : RowText) (m : ℕ) : Char :=
  if Covers maxx text m then printed maxx text m else old m

/-- A client's text fits on the row. -/
def TextFits (text : RowText) : Prop := ∀ t ∈ text, TextWindow.Fits maxx (maxx / 20) t

/-- Between the borders, there are blanks where the print does not cover the row. -/
def BlankBeside (old : ℕ → Char) (text : RowText) : Prop :=
  ∀ m, 1 ≤ m → m < maxx - 1 → ¬ Covers maxx text m → old m = ' '

end Row

instance (maxx : ℕ) (old : ℕ → Char) (text : RowText) : Decidable (BlankBeside maxx old text) :=
  decidable_of_iff (∀ m < maxx - 1, 1 ≤ m → ¬ Covers maxx text m → old m = ' ')
    ⟨fun h m h1 hm => h m hm h1, fun h m hm h1 => h m h1 hm⟩

instance (maxx : ℕ) (text : RowText) : Decidable (TextFits maxx text) :=
  inferInstanceAs (Decidable (∀ t ∈ text, _))

/-- A row that is there shows the text, and nothing else between the borders. -/
structure RowShows (window : TextWindow) (y : ℕ) (text : RowText) : Prop where
  inside : y < window.maxy
  fits : TextFits window.maxx text
  cells : ∀ m, 1 ≤ m → m < window.maxx - 1 →
    window.cell y m = rowCells window.maxx (fun _ => ' ') text m

theorem rowCells_blank_iff {maxx : ℕ} {old : ℕ → Char} {text : RowText} :
    (∀ m, 1 ≤ m → m < maxx - 1 → rowCells maxx old text m = rowCells maxx (fun _ => ' ') text m)
      ↔ BlankBeside maxx old text := by
  unfold rowCells BlankBeside
  refine forall_congr' fun m => forall_congr' fun _ => forall_congr' fun _ => ?_
  split_ifs with h
  · exact iff_of_true rfl fun hnot => absurd h hnot
  · exact ⟨fun heq _ => heq, fun hblank => hblank h⟩

theorem expand_concat {c : Char} (hc : c ≠ '\t') (x : ℕ) (text : List Char) :
    TextWindow.expand x (text ++ [c]) = TextWindow.expand x text ++ [c] := by
  rw [TextWindow.expand_append, TextWindow.expand_eq (List.mem_singleton.not.2 hc.symm)]

/-- The last cell of a text. -/
theorem covers_last (maxx : ℕ) (text : List Char) {c : Char} (hc : c ≠ '\t') :
    Covers maxx (some (text ++ [c])) (maxx / 20 + (TextWindow.expand (maxx / 20) text).length)
      ∧ printed maxx (some (text ++ [c])) (maxx / 20 + (TextWindow.expand (maxx / 20) text).length)
        = c := by
  unfold Covers printed
  dsimp only
  rw [expand_concat hc]
  simp [List.getD_eq_getElem?_getD]

/-- Texts that differ in the last character are told apart on the row. -/
theorem rowCells_last {maxx : ℕ} {old : ℕ → Char} {text : List Char} {c c' : Char}
    (hc : c ≠ '\t') (hc' : c' ≠ '\t') (htext : text ≠ [])
    (hfits : TextWindow.Fits maxx (maxx / 20) (text ++ [c]))
    (h : ∀ m, 1 ≤ m → m < maxx - 1 → rowCells maxx old (some (text ++ [c'])) m
      = rowCells maxx (fun _ => ' ') (some (text ++ [c])) m) : c' = c := by
  have hpos := List.length_pos_of_ne_nil (TextWindow.expand_ne_nil htext (maxx / 20))
  have hend := hfits.2
  rw [expand_concat hc, List.length_append, List.length_singleton] at hend
  have hcell := h (maxx / 20 + (TextWindow.expand (maxx / 20) text).length) (by omega) (by omega)
  obtain ⟨hcovers, hprinted⟩ := covers_last maxx text hc
  obtain ⟨hcovers', hprinted'⟩ := covers_last maxx text hc'
  unfold rowCells at hcell
  rwa [if_pos hcovers, if_pos hcovers', hprinted, hprinted'] at hcell

/-! ## The rows of the table -/

section Draw

variable {starty : UInt32} {window : TextWindow}

/-- The place of row `i`. -/
def rowAt (starty : UInt32) (i : ℕ) : ℕ := (starty + .ofNat i).toNat

/-- The prints of a row. -/
def rowPrints (starty : UInt32) (maxx i : ℕ) : RowText → List Print
  | none => blankRow starty maxx i
  | some text => [⟨starty + .ofNat i, maxx / 20, text⟩]

/-- The row becomes what `f` makes of it, and the rest of the window stays. -/
structure Redraws (window window' : TextWindow) (y : ℕ) (f : (ℕ → Char) → ℕ → Char) : Prop where
  maxy : window'.maxy = window.maxy
  maxx : window'.maxx = window.maxx
  row : window'.cell y = f (window.cell y)
  others : ∀ y' ≠ y, window'.cell y' = window.cell y'

theorem redraws_mvprint (window : TextWindow) {x y : ℕ} {text : List Char} (hy : y < window.maxy)
    (hfits : TextWindow.Fits window.maxx x text) :
    Redraws window (window.mvprint y x text) y fun old m =>
      if x ≤ m ∧ m < x + (TextWindow.expand x text).length
      then (TextWindow.expand x text).getD (m - x) ' ' else old m where
  maxy := by rw [TextWindow.mvprint_eq hy hfits]
  maxx := by rw [TextWindow.mvprint_eq hy hfits]
  row := by
    funext m
    rw [TextWindow.cell_mvprint hy hfits]
    simp only [true_and]
  others y' hne := by
    funext m
    rw [TextWindow.cell_mvprint hy hfits, if_neg fun h => hne h.1]

/-- The blanks of a row, up to a column. -/
theorem redraws_blanks {i : ℕ} (hy : rowAt starty i < window.maxy) : ∀ n, n ≤ window.maxx - 3 - 2 →
    Redraws window (((List.range n).map fun j => (⟨starty + .ofNat i, 2 + j, [' ']⟩ : Print)).foldl
      mvwprintwc window) (rowAt starty i) fun old m => if 2 ≤ m ∧ m < 2 + n then ' ' else old m
  | 0, _ => by
    refine ⟨rfl, rfl, funext fun m => ?_, fun _ _ => rfl⟩
    rw [if_neg (by omega)]
    rfl
  | n + 1, h => by
    obtain ⟨hmaxy, hmaxx, hrow, hothers⟩ := redraws_blanks hy n (by omega)
    rw [List.range_succ, List.map_append, List.foldl_append]
    set window' := ((List.range n).map fun j => (⟨starty + .ofNat i, 2 + j, [' ']⟩ : Print)).foldl
      mvwprintwc window
    have hspace : TextWindow.expand (2 + n) [' '] = [' '] := TextWindow.expand_eq (by decide) _
    have hfits : TextWindow.Fits window'.maxx (2 + n) [' '] := by
      refine ⟨List.all_eq_true.1 (by decide), ?_⟩
      rw [hspace, hmaxx, List.length_singleton]
      omega
    have hstep := redraws_mvprint window' (hmaxy ▸ hy) hfits
    rw [hspace] at hstep
    refine ⟨hstep.maxy.trans hmaxy, hstep.maxx.trans hmaxx, hstep.row.trans ?_, fun y' hne =>
      (hstep.others y' hne).trans (hothers y' hne)⟩
    funext m
    rw [hrow, List.length_singleton]
    dsimp only
    by_cases hm : m = 2 + n
    · rw [if_pos (by omega), if_pos (by omega), hm, Nat.sub_self]
      rfl
    · rw [if_neg (by omega)]
      by_cases hlt : 2 ≤ m ∧ m < 2 + n
      · rw [if_pos hlt, if_pos (by omega)]
      · rw [if_neg hlt, if_neg (by omega)]

/-- A row whose text fits is drawn on its own row. -/
theorem redraws_row (window : TextWindow) {i : ℕ} {text : RowText} (hy : rowAt starty i < window.maxy)
    (hfits : TextFits window.maxx text) :
    Redraws window ((rowPrints starty window.maxx i text).foldl mvwprintwc window)
      (rowAt starty i) fun old => rowCells window.maxx old text := by
  rcases text with _ | text
  · have hblanks := redraws_blanks hy (window.maxx - 3 - 2) le_rfl
    refine ⟨hblanks.maxy, hblanks.maxx, hblanks.row.trans (funext fun m => ?_), hblanks.others⟩
    unfold rowCells Covers printed
    refine if_congr ?_ rfl rfl
    omega
  · exact redraws_mvprint window hy (hfits text rfl)

/-- Rows of the table that are in the window are different ones. -/
theorem rowAt_inj {n i j : ℕ} (hrows : ∀ k < n, rowAt starty k < window.maxy) (hi : i < n)
    (hj : j < n) (h : rowAt starty i = rowAt starty j) : i = j := by
  have hlt := window.maxy_lt
  have hval : ∀ k, rowAt starty k = (starty.toNat + k) % 2 ^ 32 := fun k => by
    simp [rowAt, UInt32.toNat_add]
  simp only [hval] at hrows h
  -- between two that are the same there is one below every window
  wlog hij : i < j generalizing i j
  · rcases Nat.lt_or_ge j i with hji | hji
    · exact (this hj hi h.symm hji).symm
    · omega
  have hmid := hrows (i + (2 ^ 31 + 2 ^ 32 - (starty.toNat + i) % 2 ^ 32) % 2 ^ 32) (by omega)
  omega

/-- The rows of the table, one after the other. -/
theorem redraws_rows {n : ℕ} {texts : ℕ → RowText} (hrows : ∀ i < n, rowAt starty i < window.maxy)
    (hfits : ∀ i < n, TextFits window.maxx (texts i)) : ∀ k ≤ n, ∃ window',
      (((List.range k).map fun i => rowPrints starty window.maxx i (texts i)).flatten.foldl
        mvwprintwc window) = window' ∧ window'.maxy = window.maxy ∧ window'.maxx = window.maxx
      ∧ (∀ i < k, window'.cell (rowAt starty i)
        = rowCells window.maxx (window.cell (rowAt starty i)) (texts i))
      ∧ ∀ i < n, k ≤ i → window'.cell (rowAt starty i) = window.cell (rowAt starty i)
  | 0, _ => ⟨window, rfl, rfl, rfl, fun _ h => absurd h (Nat.not_lt_zero _), fun _ _ _ => rfl⟩
  | k + 1, hk => by
    obtain ⟨window', hfold, hmaxy, hmaxx, hdrawn, hrest⟩ := redraws_rows hrows hfits k (by omega)
    have hstep := redraws_row window' (show rowAt starty k < _ from hmaxy ▸ hrows k hk)
      (show TextFits _ (texts k) from hmaxx ▸ hfits k hk)
    rw [hmaxx] at hstep
    refine ⟨_, rfl, ?_⟩
    rw [List.range_succ, List.map_append, List.flatten_append, List.foldl_append, hfold,
      List.map_singleton, List.flatten_singleton]
    refine ⟨hstep.maxy.trans hmaxy, hstep.maxx.trans hmaxx, fun i hi => ?_, fun i hi hki => ?_⟩
    · rcases Nat.lt_succ_iff_lt_or_eq.1 hi with hlt | rfl
      · have hne : rowAt starty i ≠ rowAt starty k := fun heq =>
          hlt.ne (rowAt_inj hrows (by omega) hk heq)
        rw [hstep.others _ hne, hdrawn i hlt]
      · rw [hstep.row, hrest i hk le_rfl]
    · have hne : rowAt starty i ≠ rowAt starty k := fun heq => by
        have := rowAt_inj hrows hi hk heq
        omega
      rw [hstep.others _ hne, hrest i hi (by omega)]

/-- A print leaves the size of the window. -/
theorem mvwprintwc_size (print : Print) (window : TextWindow) :
    (mvwprintwc window print).maxy = window.maxy ∧ (mvwprintwc window print).maxx = window.maxx :=
  TextWindow.mvprint_size window _ _ _

theorem prints_size : ∀ (prints : List Print) (window : TextWindow),
    (prints.foldl mvwprintwc window).maxy = window.maxy
      ∧ (prints.foldl mvwprintwc window).maxx = window.maxx
  | [], _ => ⟨rfl, rfl⟩
  | print :: prints, window => by
    obtain ⟨hmaxy, hmaxx⟩ := prints_size prints (mvwprintwc window print)
    obtain ⟨hmaxy', hmaxx'⟩ := mvwprintwc_size print window
    exact ⟨hmaxy.trans hmaxy', hmaxx.trans hmaxx'⟩

end Draw

/-! ## What the rows are for -/

/-- The client a row is for, of the clients of the file. -/
def shownClient (clients : List AmdGpuClientInfo) (i : ℕ) : Option AmdGpuClientInfo :=
  clients[i]?.filter (!isUnknow ·)

/-- The text of a client's row, with the name of its user and whether it is authenticated. -/
def rowText (i : ℕ) (client : Option AmdGpuClientInfo) (user : List Char) (flag : Char) : RowText :=
  client.map fun info =>
    clientText i info user (if info.master = 'y' then "master" else "normal")
      (if info.a = flag then "y" else "n")

/-- The text of a row but for its last character. -/
def clientBase (i : ℕ) (info : AmdGpuClientInfo) (user : List Char) : List Char :=
  clientText i info user (if info.master = 'y' then "master" else "normal") ""

theorem clientBase_ne_nil (i : ℕ) (info : AmdGpuClientInfo) (user : List Char) :
    clientBase i info user ≠ [] := by
  unfold clientBase clientText
  exact List.append_ne_nil_of_right_ne_nil _ (List.cons_ne_nil _ _)

def yesNo (b : Prop) [Decidable b] : Char := if b then 'y' else 'n'

theorem yesNo_ne_tab (b : Prop) [Decidable b] : yesNo b ≠ '\t' := by
  unfold yesNo
  split_ifs <;> decide

theorem yesNo_plain (b : Prop) [Decidable b] : TextWindow.isPlain (yesNo b) = true := by
  unfold yesNo
  split_ifs <;> decide

theorem rowText_some (i : ℕ) (info : AmdGpuClientInfo) (user : List Char) (flag : Char) :
    rowText i (some info) user flag = some (clientBase i info user ++ [yesNo (info.a = flag)]) := by
  have happend : ∀ master a : String, clientText i info user master a
      = clientText i info user master "" ++ a.toList := fun master a => by simp [clientText]
  unfold rowText clientBase yesNo
  rw [Option.map_some, happend]
  split_ifs <;> rfl

/-- Which character it is that comes last does not change whether the text fits. -/
theorem rowText_fits {maxx i : ℕ} {client : Option AmdGpuClientInfo} {user : List Char}
    (flag flag' : Char) (h : TextFits maxx (rowText i client user flag)) :
    TextFits maxx (rowText i client user flag') := by
  rcases client with _ | info
  · exact h
  rw [rowText_some] at h ⊢
  rintro _ ⟨⟩
  obtain ⟨hplain, hend⟩ := h _ rfl
  rw [List.forall_mem_append] at hplain
  rw [expand_concat (yesNo_ne_tab _), List.length_append, List.length_singleton] at hend
  refine ⟨?_, ?_⟩
  · rw [List.forall_mem_append, List.forall_mem_singleton]
    exact ⟨hplain.1, yesNo_plain _⟩
  · rw [expand_concat (yesNo_ne_tab _), List.length_append, List.length_singleton]
    exact hend

section Table

variable (passwd : UInt32 → Option (List Char)) (starty : UInt32) (uiClientsCount : ℕ)

/-- The name the table gives a client's user. -/
def userName (client : Option AmdGpuClientInfo) : List Char :=
  (client.bind fun info => passwd info.uid).getD []

/-- The row shows its client, with the name its user has if it has one, or blanks. -/
def RowRight (window : TextWindow) (i : ℕ) (client : Option AmdGpuClientInfo) : Prop :=
  ∃ user, (∀ info ∈ client, ∀ pwName, passwd info.uid = some pwName → user = pwName)
    ∧ RowShows window (rowAt starty i) (rowText i client user 'y')

/-- The row is in the window. Its client has a user with a name, has not been authenticated, and
its text fits; and the text covers all that was on the row. -/
structure RowFits (window : TextWindow) (i : ℕ) (client : Option AmdGpuClientInfo) : Prop where
  inside : rowAt starty i < window.maxy
  entry : ∀ info ∈ client, (passwd info.uid).isSome
  auth : ∀ info ∈ client, info.a = 'n'
  fits : TextFits window.maxx (rowText i client (userName passwd client) 'y')
  beside : BlankBeside window.maxx (window.cell (rowAt starty i))
    (rowText i client (userName passwd client) 'y')

/-- The window after the rows of some clients. -/
def drawRows (window : TextWindow) (clients : ℕ → Option AmdGpuClientInfo) : TextWindow :=
  ((List.range uiClientsCount).map fun i => rowPrints starty window.maxx i
    (rowText i (clients i) (userName passwd (clients i)) 'a')).flatten.foldl mvwprintwc window

variable {passwd starty uiClientsCount}

section Rows

variable {maxx count : ℕ} {clientInfos : List AmdGpuClientInfo}

/-- A row is printed, unless the name of a user without one is asked for. -/
theorem clientRow_of_entry {i : ℕ}
    (h : ∀ info ∈ clientAt clientInfos count i, (passwd info.uid).isSome) :
    clientRow passwd starty maxx clientInfos count i
      = some (rowPrints starty maxx i (rowText i (clientAt clientInfos count i)
        (userName passwd (clientAt clientInfos count i)) 'a')) := by
  unfold clientRow
  rcases hclient : clientAt clientInfos count i with _ | info
  · rfl
  · obtain ⟨pwName, hpw⟩ := Option.isSome_iff_exists.1 (h info hclient)
    dsimp only
    rw [userName, Option.bind_some, hpw]
    rfl

theorem entry_of_clientRow {i : ℕ} {row : List Print}
    (h : clientRow passwd starty maxx clientInfos count i = some row) :
    ∀ info ∈ clientAt clientInfos count i, (passwd info.uid).isSome := by
  intro info hinfo
  unfold clientRow at h
  rw [hinfo] at h
  obtain ⟨pwName, hpw, -⟩ := Option.map_eq_some_iff.1 h
  rw [hpw]
  rfl

theorem exists_of_forall₂ {α β : Type} {R : α → β → Prop} : ∀ {l : List α} {ys : List β},
    List.Forall₂ R l ys → ∀ a ∈ l, ∃ b, R a b
  | _ :: _, _ :: _, .cons h hs, a, ha => by
    rcases List.mem_cons.1 ha with rfl | ha
    · exact ⟨_, h⟩
    · exact exists_of_forall₂ hs a ha

/-- So are the rows of some clients. -/
theorem clientRows_eq_some {clients : ℕ → Option AmdGpuClientInfo}
    (hclients : ∀ i < uiClientsCount, clientAt clientInfos count i = clients i)
    {rows : List (List Print)} :
    (List.range uiClientsCount).mapM (clientRow passwd starty maxx clientInfos count) = some rows
      ↔ (∀ i < uiClientsCount, ∀ info ∈ clients i, (passwd info.uid).isSome)
        ∧ (List.range uiClientsCount).map (fun i => rowPrints starty maxx i
          (rowText i (clients i) (userName passwd (clients i)) 'a')) = rows := by
  have hof : (∀ i < uiClientsCount, ∀ info ∈ clients i, (passwd info.uid).isSome) →
      (List.range uiClientsCount).mapM (clientRow passwd starty maxx clientInfos count)
        = some ((List.range uiClientsCount).map fun i => rowPrints starty maxx i
          (rowText i (clients i) (userName passwd (clients i)) 'a')) := fun hentry => by
    rw [mapM_eq_some, List.forall₂_map_right_iff, List.forall₂_same]
    intro i hi
    rw [List.mem_range] at hi
    rw [← hclients i hi]
    exact clientRow_of_entry ((hclients i hi).symm ▸ hentry i hi)
  constructor
  · intro hrows
    have hentry : ∀ i < uiClientsCount, ∀ info ∈ clients i, (passwd info.uid).isSome := by
      intro i hi
      obtain ⟨row, hrow⟩ := exists_of_forall₂ (mapM_eq_some.1 hrows) i (List.mem_range.2 hi)
      exact hclients i hi ▸ entry_of_clientRow hrow
    exact ⟨hentry, Option.some.inj ((hof hentry).symm.trans hrows)⟩
  · rintro ⟨hentry, rfl⟩
    exact hof hentry

end Rows

/-- Where each row is in the window and its text fits, it is what was there under the text. -/
theorem drawn_row {window : TextWindow} {clients : ℕ → Option AmdGpuClientInfo}
    (hrows : ∀ i < uiClientsCount, rowAt starty i < window.maxy)
    (hfits : ∀ i < uiClientsCount,
      TextFits window.maxx (rowText i (clients i) (userName passwd (clients i)) 'y'))
    {i : ℕ} (hi : i < uiClientsCount) :
    (drawRows passwd starty uiClientsCount window clients).cell (rowAt starty i)
      = rowCells window.maxx (window.cell (rowAt starty i))
        (rowText i (clients i) (userName passwd (clients i)) 'a') := by
  obtain ⟨window', hfold, -, -, hdrawn, -⟩ := redraws_rows (n := uiClientsCount) hrows
    (fun i hi => rowText_fits 'y' 'a' (hfits i hi)) uiClientsCount le_rfl
  rw [drawRows, hfold, hdrawn i hi]

/-- The row shows its client just if what is printed there is its text, and covers the rest. -/
theorem rowCells_right_iff {maxx i : ℕ} {old : ℕ → Char} {client : Option AmdGpuClientInfo}
    {user : List Char} (hflag : ∀ info ∈ client, info.a = 'y' ∨ info.a = 'n')
    (hfits : TextFits maxx (rowText i client user 'y')) :
    (∀ m, 1 ≤ m → m < maxx - 1 → rowCells maxx old (rowText i client user 'a') m
        = rowCells maxx (fun _ => ' ') (rowText i client user 'y') m)
      ↔ (∀ info ∈ client, info.a = 'n') ∧ BlankBeside maxx old (rowText i client user 'y') := by
  rcases client with _ | info
  · exact rowCells_blank_iff.trans ⟨fun h => ⟨fun _ hmem => (nomatch hmem), h⟩, And.right⟩
  obtain hy | hn := hflag info rfl
  · refine iff_of_false (fun h => ?_) fun h => ?_
    · rw [rowText_some, rowText_some] at h
      rw [rowText_some] at hfits
      have hlast := rowCells_last (yesNo_ne_tab _) (yesNo_ne_tab _)
        (clientBase_ne_nil i info user) (hfits _ rfl) h
      rw [hy] at hlast
      exact absurd hlast (by decide)
    · have hn := h.1 info rfl
      rw [hy] at hn
      exact absurd hn (by decide)
  · have hsame : rowText i (some info) user 'a' = rowText i (some info) user 'y' := by
      rw [rowText_some, rowText_some, hn]
      rfl
    rw [hsame, rowCells_blank_iff]
    refine ⟨fun h => ⟨?_, h⟩, And.right⟩
    rintro _ ⟨⟩
    exact hn

/-- A user that has a name is shown with it. -/
theorem rowText_user {i : ℕ} {client : Option AmdGpuClientInfo} {user : List Char} {flag : Char}
    (hentry : ∀ info ∈ client, (passwd info.uid).isSome)
    (huser : ∀ info ∈ client, ∀ pwName, passwd info.uid = some pwName → user = pwName) :
    rowText i client user flag = rowText i client (userName passwd client) flag := by
  rcases client with _ | info
  · rfl
  · obtain ⟨pwName, hpw⟩ := Option.isSome_iff_exists.1 (hentry info rfl)
    rw [huser info rfl pwName hpw, userName, Option.bind_some, hpw]
    rfl

/-- The rows printed are right just if each of them fits. -/
theorem rows_right_iff {window : TextWindow} {clients : ℕ → Option AmdGpuClientInfo}
    (hentry : ∀ i < uiClientsCount, ∀ info ∈ clients i, (passwd info.uid).isSome)
    (hflag : ∀ i < uiClientsCount, ∀ info ∈ clients i, info.a = 'y' ∨ info.a = 'n') :
    (∀ i < uiClientsCount,
        RowRight passwd starty (drawRows passwd starty uiClientsCount window clients) i (clients i))
      ↔ ∀ i < uiClientsCount, RowFits passwd starty window i (clients i) := by
  obtain ⟨hmaxy, hmaxx⟩ : (drawRows passwd starty uiClientsCount window clients).maxy = window.maxy
      ∧ (drawRows passwd starty uiClientsCount window clients).maxx = window.maxx := prints_size _ _
  constructor
  · intro h
    have hshows : ∀ i < uiClientsCount, rowAt starty i < window.maxy ∧ TextFits window.maxx
        (rowText i (clients i) (userName passwd (clients i)) 'y') := fun i hi => by
      obtain ⟨user, huser, hrow⟩ := h i hi
      rw [← hmaxy, ← hmaxx, ← rowText_user (hentry i hi) huser]
      exact ⟨hrow.inside, hrow.fits⟩
    intro i hi
    obtain ⟨user, huser, hrow⟩ := h i hi
    have hcells := hrow.cells
    rw [rowText_user (hentry i hi) huser, hmaxx, drawn_row (fun j hj => (hshows j hj).1)
      (fun j hj => (hshows j hj).2) hi, rowCells_right_iff (hflag i hi) (hshows i hi).2] at hcells
    exact ⟨(hshows i hi).1, hentry i hi, hcells.1, (hshows i hi).2, hcells.2⟩
  · intro h i hi
    have hcells := (rowCells_right_iff (hflag i hi) (h i hi).fits).2
      ⟨(h i hi).auth, (h i hi).beside⟩
    rw [← drawn_row (fun j hj => (h j hj).inside) (fun j hj => (h j hj).fits) hi] at hcells
    refine ⟨userName passwd (clients i), fun info hinfo pwName hpw => ?_, ?_, ?_, ?_⟩
    · rw [hinfo, userName, Option.bind_some, hpw]
      rfl
    · exact hmaxy ▸ (h i hi).inside
    · exact hmaxx ▸ (h i hi).fits
    · exact hmaxx ▸ hcells

end Table

/-! ## The file of the kernel -/

section Decode

variable {records clientInfos : List AmdGpuClientInfo}

/-- The loop reads the records before one that is too long. -/
theorem clientLoop_shown (left : ℕ) : ∀ (shown : List AmdGpuClientInfo)
    {rest clientInfo : List AmdGpuClientInfo} (n : ℕ) {fp : File}, (∀ r ∈ shown ++ rest, r.Valid) →
    (∀ r ∈ shown, r.Short) → AtRecords fp (shown ++ rest) → n + shown.length ≤ clientInfo.length →
    ∃ fp' clientInfo', clientLoop (shown.length + left) fp clientInfo n
        = clientLoop left fp' clientInfo' (n + shown.length) ∧ AtRecords fp' rest
      ∧ clientInfo'.take (n + shown.length) = clientInfo.take n ++ shown
  | [], _, clientInfo, n, fp, _, _, hat, _ =>
    ⟨fp, clientInfo, by rw [List.length_nil, Nat.zero_add]; rfl, hat, (List.append_nil _).symm⟩
  | r :: shown, rest, clientInfo, n, fp, hv, hs, hat, hlen => by
    rw [List.forall_mem_cons] at hs
    rw [List.length_cons] at hlen ⊢
    obtain ⟨fp', clientInfo', hstep, hat', hlen', htake⟩ :=
      @clientLoop_cons (shown.length + left) fp r (shown ++ rest) clientInfo n hv hs.1 hat
        (by omega)
    obtain ⟨fp'', clientInfo'', hloop, hat'', htake'⟩ := clientLoop_shown left shown (n + 1)
      (fun r' hr' => hv r' (List.mem_cons_of_mem r hr')) hs.2 hat'
      (show n + 1 + shown.length ≤ clientInfo'.length by omega)
    rw [show shown.length + 1 + left = shown.length + left + 1 by omega, hstep, hloop]
    rw [Nat.add_right_comm] at htake' ⊢
    refine ⟨fp'', clientInfo'', rfl, hat'', ?_⟩
    rw [← Nat.add_assoc, htake', htake, List.append_assoc, List.singleton_append]

/-- The buffer has the header but for blanks, and no record that has a row is too long. -/
def Readable (header : List Char) (records : List AmdGpuClientInfo) (uiClientsCount : ℕ) : Prop :=
  (∀ c ∈ header.drop 1023, isSpace c = true) ∧ ∀ r ∈ records.take uiClientsCount, r.Short

theorem clientAt_loop {fp : File} (n : ℕ) (hv : ∀ r ∈ records, r.Valid)
    (hs : ∀ r ∈ records.take n, r.Short) (hat : AtRecords fp records)
    (hcap : records.length ≤ maxClientCount) (hlen : maxClientCount ≤ clientInfos.length)
    {i : ℕ} (hi : i < n) :
    clientAt (clientLoop maxNameSize fp clientInfos 0).1
        (clientLoop maxNameSize fp clientInfos 0).2 i = shownClient records i := by
  have hmax : maxClientCount ≤ maxNameSize := by decide
  have hshown := List.length_take_le n records
  have hle := List.length_take_le' n records
  obtain ⟨fp', clientInfo', hloop, hat', htake⟩ := @clientLoop_shown
    (maxNameSize - (records.take n).length) (records.take n) (records.drop n) clientInfos 0 fp
    (by rwa [List.take_append_drop]) hs (by rwa [List.take_append_drop]) (by omega)
  rw [Nat.add_sub_cancel' (by omega), Nat.zero_add] at hloop
  rw [Nat.zero_add, List.take_zero, List.nil_append] at htake
  obtain ⟨hframe, hcount⟩ := clientLoop_frame (maxNameSize - (records.take n).length) fp'
    clientInfo' (records.take n).length
  rw [hloop]
  unfold clientAt shownClient
  by_cases hin : i < records.length
  · have hlt : i < (records.take n).length := by
      rw [List.length_take]
      omega
    rw [if_pos (by omega), ← List.getElem?_take_of_lt hlt, hframe, htake,
      List.getElem?_take_of_lt hi]
  · -- all the records have been read, and nothing is left
    have hrest : records.drop n = [] := List.drop_eq_nil_of_le (by omega)
    rw [hrest] at hat'
    have hnothing : NothingLeft fp' := (nothingLeft_iff (by simp) (by simp) hat').2 rfl
    rw [clientLoop_nothing hnothing, if_neg (show ¬ i < (records.take n).length by omega),
      List.getElem?_eq_none (show records.length ≤ i by omega)]
    rfl

end Decode

/-- The query reads the records, if the buffer shows the header. -/
theorem query_header (clientInfos : List AmdGpuClientInfo) {files : Files} {device : GpuDevice}
    {header : List Char}
    (hfile : files (debugFile device "clients") = some { rest := clientsText header records })
    (hline : '\n' ∉ header) :
    ∃ fp, ((∀ c ∈ header.drop 1023, isSpace c = true) → AtRecords fp records)
      ∧ amdGpuQueryClientInfo files device clientInfos maxNameSize
        = if "master".toList <:+: header.take 1023
          then (0, clientLoop maxNameSize fp clientInfos 0)
          else (-einval, clientInfos, maxNameSize) := by
  obtain ⟨l, rest, hget, hin, hat⟩ := fgets_header records hline
  refine ⟨{ rest := rest }, hat, ?_⟩
  rw [amdGpuQueryClientInfo, hfile]
  dsimp only
  rw [hget, Option.getD_some, ← Option.not_isSome]
  by_cases hmaster : "master".toList <:+: header.take 1023
  · rw [if_pos hmaster, (strstr_isSome_iff _ l).2 (hin.2 hmaster)]
    rfl
  · have hnone := mt (fun h => hin.1 ((strstr_isSome_iff _ l).1 h)) hmaster
    rw [if_neg hmaster, Bool.eq_false_iff.2 hnone]
    rfl

section Call

variable (passwd : UInt32 → Option (List Char)) (starty : UInt32) (uiClientsCount : ℕ)
  (header : List Char) (records : List AmdGpuClientInfo)

/-- A call with root permission ends, and each row is as it should be. -/
def TableRight (files : Files) (device : GpuDevice) (clientInfos : List AmdGpuClientInfo)
    (window : TextWindow) : Prop :=
  ∃ round window', updateClientWindow passwd starty uiClientsCount files device true clientInfos
      window = some (round, window')
    ∧ ∀ i < uiClientsCount, RowRight passwd starty window' i (shownClient records i)

/-- If the buffer shows the header, the records can be read and each row fits. If it does not, the
rows have been right before. -/
def TableFits (window : TextWindow) : Prop :=
  if "master".toList <:+: header.take 1023 then
    Readable header records uiClientsCount
      ∧ ∀ i < uiClientsCount, RowFits passwd starty window i (shownClient records i)
  else ∀ i < uiClientsCount, RowRight passwd starty window i (shownClient records i)

variable {header records} {files : Files} {device : GpuDevice} (window : TextWindow)

/-- The table, where the file could be read. -/
theorem updateClientTable_ok {maxx : ℕ}
    (hret : (amdGpuQueryClientInfo files device clientInfos maxNameSize).1 = 0) :
    updateClientTable passwd starty uiClientsCount maxx files device true clientInfos
      = ((List.range uiClientsCount).mapM (clientRow passwd starty maxx
          (amdGpuQueryClientInfo files device clientInfos maxNameSize).2.1
          (amdGpuQueryClientInfo files device clientInfos maxNameSize).2.2)).map
        (updateClientInfo files device true uiClientsCount clientInfos, ·) := by
  unfold updateClientTable
  rw [updateClientInfo_ok uiClientsCount hret]
  exact if_neg (by simp)

theorem updateClientTable_failed {maxx : ℕ}
    (hret : (amdGpuQueryClientInfo files device clientInfos maxNameSize).1 ≠ 0) :
    updateClientTable passwd starty uiClientsCount maxx files device true clientInfos
      = some (updateClientInfo files device true uiClientsCount clientInfos, []) := by
  unfold updateClientTable
  rw [updateClientInfo_failed uiClientsCount hret]
  exact if_pos (by simp [hret])

/-- The window after the call, where the records can be read. -/
theorem updateClientWindow_read
    (hfile : files (debugFile device "clients") = some { rest := clientsText header records })
    (hline : '\n' ∉ header) (hvalid : ∀ r ∈ records, r.Valid)
    (hmaster : "master".toList <:+: header.take 1023)
    (hread : Readable header records uiClientsCount) (hcap : records.length ≤ maxClientCount)
    (hlen : maxClientCount ≤ clientInfos.length) (window' : TextWindow) :
    (∃ round, updateClientWindow passwd starty uiClientsCount files device true clientInfos window
        = some (round, window'))
      ↔ (∀ i < uiClientsCount, ∀ info ∈ shownClient records i, (passwd info.uid).isSome)
        ∧ drawRows passwd starty uiClientsCount window (shownClient records) = window' := by
  obtain ⟨fp, hat, hquery⟩ := query_header clientInfos hfile hline
  rw [if_pos hmaster] at hquery
  have hclients : ∀ i < uiClientsCount, clientAt (clientLoop maxNameSize fp clientInfos 0).1
      (clientLoop maxNameSize fp clientInfos 0).2 i = shownClient records i := fun i hi =>
    clientAt_loop uiClientsCount hvalid hread.2 (hat hread.1) hcap hlen hi
  unfold updateClientWindow
  rw [updateClientTable_ok passwd starty uiClientsCount (congrArg Prod.fst hquery), hquery]
  constructor
  · rintro ⟨round, hsome⟩
    obtain ⟨⟨round', rows⟩, htable, hwindow⟩ := Option.map_eq_some_iff.1 hsome
    obtain ⟨rows', hrows, hpair⟩ := Option.map_eq_some_iff.1 htable
    obtain ⟨-, rfl⟩ := Prod.mk.inj hpair
    obtain ⟨hentry, rfl⟩ := (clientRows_eq_some hclients).1 hrows
    exact ⟨hentry, (Prod.mk.inj hwindow).2⟩
  · rintro ⟨hentry, rfl⟩
    rw [(clientRows_eq_some hclients).2 ⟨hentry, rfl⟩]
    exact ⟨_, rfl⟩

/-- The rows are right just if they fit, where the records can be read. -/
theorem table_right_iff
    (hfile : files (debugFile device "clients") = some { rest := clientsText header records })
    (hline : '\n' ∉ header) (hvalid : ∀ r ∈ records, r.Valid)
    (hmaster : "master".toList <:+: header.take 1023)
    (hread : Readable header records uiClientsCount) (hcap : records.length ≤ maxClientCount)
    (hlen : maxClientCount ≤ clientInfos.length) :
    TableRight passwd starty uiClientsCount records files device clientInfos window
      ↔ ∀ i < uiClientsCount, RowFits passwd starty window i (shownClient records i) := by
  have hcall := updateClientWindow_read passwd starty uiClientsCount window hfile hline hvalid
    hmaster hread hcap hlen
  have hflag : ∀ i < uiClientsCount, ∀ info ∈ shownClient records i,
      info.a = 'y' ∨ info.a = 'n' := fun i _ info hinfo =>
    (hvalid info (List.mem_of_getElem? (Option.filter_eq_some_iff.1 hinfo).1)).a
  constructor
  · rintro ⟨round, window', hsome, hright⟩
    obtain ⟨hentry, rfl⟩ := (hcall window').1 ⟨round, hsome⟩
    exact (rows_right_iff hentry hflag).1 hright
  · intro hfits
    have hentry := fun i hi => (hfits i hi).entry
    obtain ⟨round, hsome⟩ := (hcall _).2 ⟨hentry, rfl⟩
    exact ⟨round, _, hsome, (rows_right_iff hentry hflag).2 hfits⟩

/-- Where the buffer does not show the header, the window stays as it was. -/
theorem updateClientWindow_unread (clientInfos : List AmdGpuClientInfo)
    (hfile : files (debugFile device "clients") = some { rest := clientsText header records })
    (hline : '\n' ∉ header) (hmaster : ¬ "master".toList <:+: header.take 1023) :
    ∃ round, updateClientWindow passwd starty uiClientsCount files device true clientInfos window
      = some (round, window) := by
  obtain ⟨fp, -, hquery⟩ := query_header clientInfos hfile hline
  rw [if_neg hmaster] at hquery
  have hret : (amdGpuQueryClientInfo files device clientInfos maxNameSize).1 ≠ 0 := by
    rw [hquery]
    exact show -einval ≠ 0 by decide
  unfold updateClientWindow
  rw [updateClientTable_failed passwd starty uiClientsCount hret]
  exact ⟨_, rfl⟩

end Call

section Example

def rootOnly (uid : UInt32) : Option (List Char) := if uid = 0 then some "root".toList else none

def rootAndUser (uid : UInt32) : Option (List Char) :=
  if uid = 1000 then some "user".toList else rootOnly uid

/-- Clients that have not been authenticated. -/
def shyXorg : AmdGpuClientInfo := { xorg with a := 'n' }

def shyShell : AmdGpuClientInfo := { shell with a := 'n' }

def clientsFile (records : List AmdGpuClientInfo) : Files :=
  fun _ => some { rest := clientsText clientsHeader records }

/-- A window of 24 rows and 130 columns, with an earlier table in it. -/
def oldWindow : TextWindow where
  maxy := 24
  maxx := 130
  cell := fun y m => if 13 ≤ y ∧ 6 ≤ m ∧ m < 75 then 'x' else ' '
  maxy_lt := by decide

end Example

end Amdtop
