import Amdtop.Asks
import Amdtop.GpuDevice

/-!
# The call that is made again

`gpuIoctl` makes its `ioctl` again while a signal interrupts it, on whatever the last one left in
its argument.
-/

namespace Amdtop

def eintr : ℤ := 4

/-- What the kernel makes of an `ioctl`: the result, `errno`, and what becomes of the argument. -/
structure IoctlAnswer (α : Type*) where
  ret : ℤ
  errno : ℤ
  arg : α → α

section Ioctl

variable {α : Type*}

/-- `ret == -1 && (errno == EINTR || errno == EAGAIN)`. -/
def IoctlAnswer.interrupted (a : IoctlAnswer α) : Bool :=
  a.ret = -1 && (a.errno = eintr || a.errno = eagain)

def ioctl (arg : α) : List (IoctlAnswer α) → Option ((ℤ × α) × List (IoctlAnswer α))
  | [] => none
  | a :: answers => some ((a.ret, a.arg arg), answers)

/-- The result and the argument, with the answers it did not need; `none` when it needs more. -/
def gpuIoctl (arg : α) : List (IoctlAnswer α) → Option ((ℤ × α) × List (IoctlAnswer α))
  | [] => none
  | a :: answers =>
    if a.interrupted then gpuIoctl (a.arg arg) answers
    else some ((a.ret, a.arg arg), answers)

/-- The stream without what a signal interrupted. -/
def finished (answers : List (IoctlAnswer α)) : List (IoctlAnswer α) :=
  answers.filter fun a => !a.interrupted

end Ioctl

end Amdtop
