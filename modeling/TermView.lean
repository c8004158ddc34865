import TermView.Main
import TermView.Proofs.ControlSequences
import TermView.Proofs.LineWrapping
import TermView.Proofs.ScreenSheet
import TermView.Proofs.TerminalRuns
import TermView.Surface.Recorder
import TermView.Proofs.CanvasPixels
import TermView.Proofs.PaintedFrame
import TermView.Proofs.EscapeGrammar
import TermView.Proofs.SplitSequences
import TermView.Proofs.SessionFrames
import TermView.Proofs.ConsoleFrames
import TermView.Proofs.PendingWrap
import TermView.Proofs.LineEditing
import TermView.Proofs.GrownGrids
import TermView.Proofs.PixelHistory
import TermView.Proofs.FrameCounts
import TermView.Proofs.RefusedSurfaces
import TermView.Proofs.ResizeChains
import TermView.Proofs.FittedGrids
import TermView.Proofs.StyleSequences
import TermView.Proofs.ColorTexts
import TermView.Proofs.StoredCells
import TermView.Proofs.PaintedPlaces
import TermView.Proofs.ArgumentGroups
import TermView.Proofs.FilledRects
import TermView.Proofs.PictureTexts
import TermView.Proofs.RestoredConsole
import TermView.Proofs.FrameDrawings
