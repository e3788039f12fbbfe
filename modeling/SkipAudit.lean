import SkipAudit.Main
import SkipAudit.Digest.Blake
import SkipAudit.Digest.Checksum
import SkipAudit.Digest.Md5
import SkipAudit.Digest.Sha
import SkipAudit.Digest.Sm3
import SkipAudit.FileSystem.ModeChange
import SkipAudit.Text.Ebcdic
import SkipAudit.Utility.Arranging
import SkipAudit.Utility.Asking
import SkipAudit.Utility.Backups
import SkipAudit.Utility.Blocks
import SkipAudit.Utility.Calculation
import SkipAudit.Utility.CharacterSet
import SkipAudit.Utility.Characters
import SkipAudit.Utility.Checksums
import SkipAudit.Utility.Counting
import SkipAudit.Utility.Differing
import SkipAudit.Utility.Environment
import SkipAudit.Utility.Factoring
import SkipAudit.Utility.Facts
import SkipAudit.Utility.Fields
import SkipAudit.Utility.Filling
import SkipAudit.Utility.Joining
import SkipAudit.Utility.Launching
import SkipAudit.Utility.Linking
import SkipAudit.Utility.Making
import SkipAudit.Utility.Moving
import SkipAudit.Utility.Pages
import SkipAudit.Utility.Paging
import SkipAudit.Utility.Permitting
import SkipAudit.Utility.Printing
import SkipAudit.Utility.Recoding
import SkipAudit.Utility.Repeats
import SkipAudit.Utility.Reversing
import SkipAudit.Utility.Scaling
import SkipAudit.Utility.Sections
import SkipAudit.Utility.Series
import SkipAudit.Utility.Sorting
import SkipAudit.Utility.Splitting
import SkipAudit.Utility.Status
import SkipAudit.Utility.Tabs
import SkipAudit.Utility.Touching
import SkipAudit.Utility.Wrapping
import SkipAudit.Proofs.Lines
import SkipAudit.Proofs.Marks
import SkipAudit.Proofs.Outline
import SkipAudit.Proofs.Marking
import SkipAudit.Proofs.Units
import SkipAudit.Proofs.Settling
import SkipAudit.Proofs.Places
import SkipAudit.Proofs.Rerun
import SkipAudit.Proofs.Corpus
import SkipAudit.Proofs.Tally
import SkipAudit.Proofs.Update
import SkipAudit.Proofs.Isolation
import SkipAudit.Proofs.Staying
import SkipAudit.Proofs.Clean
import SkipAudit.Proofs.Unmarked
import SkipAudit.Proofs.Marked
import SkipAudit.Proofs.MarkRule
import SkipAudit.Proofs.Dropping
import SkipAudit.Proofs.PoolRun
import SkipAudit.Proofs.PoolHistory
import SkipAudit.Proofs.Tags
import SkipAudit.Proofs.UnitRule
import SkipAudit.Proofs.Endings
import SkipAudit.Proofs.Classification
import SkipAudit.Proofs.Decoding
import SkipAudit.Proofs.Loading
import SkipAudit.Proofs.PathOrder
import SkipAudit.Proofs.Outstanding
import SkipAudit.Proofs.PathNames
import SkipAudit.Proofs.Listings
import SkipAudit.Proofs.Discovery
import SkipAudit.Proofs.CompilerSearch
