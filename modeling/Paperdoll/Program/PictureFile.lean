import Paperdoll.Picture.Png
import Paperdoll.Program.FileName
import Paperdoll.Program.Script

/-!
# Picture files of a program

A program reads and writes pictures only where the name of the file says that it is one.
-/

namespace Paperdoll.Task

def readPicture (path : String) : Task Bitmap := do
  let bytes ← read path
  if FileName.isPicture path then need (Picture.Png.decode bytes) else fail

def writePicture (path : String) (b : Bitmap) : Task Unit := do
  if FileName.isPicture path then write path (Picture.Png.ofBitmap b) else fail

end Paperdoll.Task
