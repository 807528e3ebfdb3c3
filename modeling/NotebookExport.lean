import NotebookExport.Configuration.Print
import NotebookExport.Main
import NotebookExport.Proofs.Accounting
import NotebookExport.Proofs.Comments
import NotebookExport.Proofs.FailingPrograms
import NotebookExport.Proofs.InstalledPrograms
import NotebookExport.Proofs.KeptBindings
import NotebookExport.Proofs.LargestSelection
import NotebookExport.Proofs.RenderedText
import NotebookExport.Proofs.Records
import NotebookExport.Proofs.Versions
import NotebookExport.Proofs.Spelling
import NotebookExport.Proofs.MarkdownScripts
import NotebookExport.Proofs.AllOrNothing
import NotebookExport.Proofs.TargetLayout
import NotebookExport.Proofs.RunLog
import NotebookExport.Proofs.SavedConfigurations
import NotebookExport.Proofs.CascadeLength
import NotebookExport.Proofs.EditScript
import NotebookExport.Proofs.RepeatedSpacing
import NotebookExport.Proofs.Occurrences
import NotebookExport.Proofs.ReadOccurrences
import NotebookExport.Proofs.BoundOccurrences
import NotebookExport.Proofs.TreeShape
import NotebookExport.Proofs.Parsing.GrammarStates
import NotebookExport.Proofs.Parsing.Stacks
import NotebookExport.Proofs.Parsing.Readings
import NotebookExport.Proofs.Parsing.Recovery
import NotebookExport.Proofs.Parsing.ParsedTrees
import NotebookExport.Proofs.Edits
import NotebookExport.Proofs.Lowering
import NotebookExport.Proofs.LayeredConfiguration
import NotebookExport.Proofs.KeptTokens
