import ArchLint.Files.Memory
import ArchLint.Main
import ArchLint.Proofs.Acceptance
import ArchLint.Proofs.Batches
import ArchLint.Proofs.Cache
import ArchLint.Proofs.CompactReport
import ArchLint.Proofs.CycleCover
import ArchLint.Proofs.Declarations
import ArchLint.Proofs.DocumentOrder
import ArchLint.Proofs.Failure
import ArchLint.Proofs.FileReports
import ArchLint.Proofs.Granularity
import ArchLint.Proofs.ImportCycles
import ArchLint.Proofs.ImportRules
import ArchLint.Proofs.Interference
import ArchLint.Proofs.LayerWords
import ArchLint.Proofs.LocalLoading
import ArchLint.Proofs.MaximumMatching
import ArchLint.Proofs.MemoryFiles
import ArchLint.Proofs.PerFile
import ArchLint.Proofs.PrintedReport
import ArchLint.Proofs.Reading
import ArchLint.Proofs.Regrading
import ArchLint.Proofs.Resolution
import ArchLint.Proofs.SearchHistory
import ArchLint.Proofs.Sorting
import ArchLint.Proofs.SymbolOrder
import ArchLint.Proofs.SymbolTable
import ArchLint.Proofs.Synonyms
import ArchLint.Proofs.TestPlaces
import ArchLint.Proofs.TestRatio
import ArchLint.Proofs.Unreferenced
import ArchLint.Proofs.ValidPatterns
import ArchLint.Proofs.Words
import ArchLint.Symbol.Document
