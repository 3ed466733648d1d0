import Amdtop.DriDebug

/-!
# What the kernel writes

The text of `clients` for a list of records, and the text of `amdgpu_fence_info` for a list of
ring sections.
-/

namespace Amdtop

open Stdio

/-! ## `clients` -/

/-- One record, as `%20s %5d %3d   %c    %c %5d %10u\n` prints it. -/
def printClient (r : AmdGpuClientInfo) : List Char :=
  padLeft 20 r.command ++ ' ' :: (padLeft 5 (decimal r.pid.toNat) ++ ' ' ::
    (padLeft 3 (decimal r.dev.toNat) ++ ' ' :: ' ' :: ' ' :: r.master ::
      ' ' :: ' ' :: ' ' :: ' ' :: r.a :: ' ' :: (padLeft 5 (decimal r.uid.toNat) ++ ' ' ::
        (padLeft 10 (decimal r.magic.toNat) ++ ['\n']))))

/-- A record the kernel can hold. -/
structure AmdGpuClientInfo.Valid (r : AmdGpuClientInfo) : Prop where
  graph : ∀ c ∈ r.command, isGraph c = true
  pos : r.command ≠ []
  command_le : r.command.length ≤ 20
  pid_le : r.pid.toNat ≤ 4194303
  dev_le : r.dev.toNat ≤ 255
  master : r.master = 'y' ∨ r.master = 'n'
  a : r.a = 'y' ∨ r.a = 'n'
  uid_lt : r.uid.toNat < 2 ^ 31

def clientsText (header : List Char) (records : List AmdGpuClientInfo) : List Char :=
  header ++ '\n' :: records.flatMap printClient

/-! ## `amdgpu_fence_info` -/

/-- The values of a section, by the field of `fenceInfo` each belongs in. -/
inductive FenceField
  | signaled | emitted | trailingFence | emittedTrial | preempted | reset | both
deriving DecidableEq, Repr

def FenceField.label : FenceField → String
  | .signaled => "Last signaled fence"
  | .emitted => "Last emitted"
  | .trailingFence => "Last signaled trailing fence"
  | .emittedTrial => "Last emitted"
  | .preempted => "Last preempted"
  | .reset => "Last reset"
  | .both => "Last both"

def AmdGpuFenceInfo.get (info : AmdGpuFenceInfo) : FenceField → UInt32
  | .signaled => info.signaled
  | .emitted => info.emitted
  | .trailingFence => info.trailingFence
  | .emittedTrial => info.emittedTrial
  | .preempted => info.preempted
  | .reset => info.reset
  | .both => info.both

/-- A ring's section. Some rings have a trailing fence, with its own emitted count, and some the
three preemption counts. -/
structure FenceRing where
  id : ℕ
  name : List Char
  signaled : UInt32
  emitted : UInt32
  trail : Option (UInt32 × UInt32)
  preempt : Option (UInt32 × UInt32 × UInt32)
deriving DecidableEq, Repr

structure FenceRing.Valid (r : FenceRing) : Prop where
  id_lt : r.id < 2 ^ 31
  graph : ∀ c ∈ r.name, isGraph c = true
  pos : r.name ≠ []
  name_le : r.name.length ≤ 40

def FenceRing.get (r : FenceRing) : FenceField → Option UInt32
  | .signaled => some r.signaled
  | .emitted => some r.emitted
  | .trailingFence => r.trail.map (·.1)
  | .emittedTrial => r.trail.map (·.2)
  | .preempted => r.preempt.map (·.1)
  | .reset => r.preempt.map (·.2.1)
  | .both => r.preempt.map (·.2.2)

/-- The lines of a section, in the order the kernel writes them. -/
def FenceRing.lines (r : FenceRing) : List (FenceField × UInt32) :=
  [(.signaled, r.signaled), (.emitted, r.emitted)]
    ++ r.trail.elim [] (fun t => [(.trailingFence, t.1), (.emittedTrial, t.2)])
    ++ r.preempt.elim [] (fun p => [(.preempted, p.1), (.reset, p.2.1), (.both, p.2.2)])

/-- The blanks between a label and its value, at least one and few enough for a line to fit the
buffer. -/
structure Gaps where
  blanks : FenceField → ℕ
  pos : ∀ f, 0 < blanks f
  fits : ∀ f, blanks f ≤ 900

def printFenceLine (g : Gaps) (l : FenceField × UInt32) : List Char :=
  l.1.label.toList ++ (List.replicate (g.blanks l.1) ' ' ++ '0' :: 'x' :: hexPad 8 l.2.toNat)

def printHeader (r : FenceRing) : List Char :=
  "--- ring ".toList ++ (decimal r.id ++ ' ' :: '(' :: (r.name ++ ") ---".toList))

/-- The lines of the file, without their newlines. -/
def fenceLines (g : Gaps) (rings : List FenceRing) : List (List Char) :=
  rings.flatMap fun r => printHeader r :: r.lines.map (printFenceLine g)

def textOf (lines : List (List Char)) : List Char := lines.flatMap (· ++ ['\n'])

end Amdtop
