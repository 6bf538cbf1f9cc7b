import PocketShell.Main
import PocketShell.Proofs.ConsoleLines
import PocketShell.Proofs.FailedReads
import PocketShell.Proofs.LineSpelling
import PocketShell.Proofs.LogAndBanner
import PocketShell.Proofs.SessionFields
import PocketShell.Proofs.Transcript
import PocketShell.Proofs.WorkingDirectory
import PocketShell.Proofs.StandardRuns
import PocketShell.Proofs.StricterLevels
import PocketShell.Proofs.Quotations
import PocketShell.Proofs.RecordLines
import PocketShell.Proofs.ProcessNames
import PocketShell.Proofs.DebugLog
import PocketShell.Proofs.LineEnds
import PocketShell.Proofs.UndecodableInput
import PocketShell.Proofs.Dispatch
import PocketShell.Proofs.LaunchOutcomes
import PocketShell.Proofs.Endings
import PocketShell.Proofs.Echo
import PocketShell.Proofs.DirectoryCommands
import PocketShell.Proofs.ZeroPaths
import PocketShell.Proofs.WellFormedBytes
import PocketShell.Proofs.EscapedBytes
import PocketShell.Proofs.Listings
import PocketShell.Proofs.LevelSpellings
import PocketShell.Proofs.ShownSessions
