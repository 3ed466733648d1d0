import Amdtop.MainLoop
import Amdtop.Rect

/-!
# The windows on the screen

The rectangles `InitWinLayout` gives `newwin`, and what `DrawMainWindowBorder` draws around them.
-/

namespace Amdtop

namespace WindowContext

variable (ctx : WindowContext)

/-- The window `newwin` makes. -/
def rect (win : WindowType) : Rect where
  y := (ctx.starty + (ctx.layout win).starty).toNat
  x := (ctx.startx + (ctx.layout win).startx).toNat
  height := (ctx.layout win).height.toNat
  width := (ctx.layout win).width.toNat

def content : Rect where
  y := ctx.starty.toNat
  x := ctx.startx.toNat
  height := ctx.height.toNat
  width := ctx.width.toNat

end WindowContext

/-! ## The border -/

/-- The rows from `y` to before `yend`, and the columns likewise. -/
def loopRect (y yend x xend : UInt32) : Rect :=
  ⟨y.toNat, x.toNat, yend.toNat - y.toNat, xend.toNat - x.toNat⟩

def mvwhline (y x n : UInt32) : Rect := ⟨y.toNat, x.toNat, 1, n.toNat⟩

def mvwvline (y x n : UInt32) : Rect := ⟨y.toNat, x.toNat, n.toNat, 1⟩

def mvwaddch (y x : UInt32) : Rect := ⟨y.toNat, x.toNat, 1, 1⟩

/-- The blanks, the lines and the corners. -/
def DrawMainWindowBorder (ctx : WindowContext) : List Rect :=
  [loopRect (ctx.starty - 1) (ctx.starty + ctx.height) (ctx.startx - 1) (ctx.startx + ctx.width),
    mvwhline (ctx.starty - 1) (ctx.startx - 1) (ctx.width + 2),
    mvwhline (ctx.starty + ctx.height) (ctx.startx - 1) (ctx.width + 2),
    mvwvline (ctx.starty - 1) (ctx.startx - 1) (ctx.height + 2),
    mvwvline (ctx.starty - 1) (ctx.startx + ctx.width) (ctx.height + 2),
    mvwaddch (ctx.starty - 1) (ctx.startx - 1),
    mvwaddch (ctx.starty + ctx.height) (ctx.startx - 1),
    mvwaddch (ctx.starty - 1) (ctx.startx + ctx.width),
    mvwaddch (ctx.starty + ctx.height) (ctx.startx + ctx.width)]

end Amdtop
