import SurveyGraph.Paths.RelationGraph
import SurveyGraph.Proofs.BatchComplete
import SurveyGraph.Proofs.CarriedOnce
import SurveyGraph.Proofs.ClassOrders
import SurveyGraph.Proofs.ClassesReached
import SurveyGraph.Proofs.Collections
import SurveyGraph.Proofs.FileSources
import SurveyGraph.Proofs.FreshNames
import SurveyGraph.Proofs.GroupedRows
import SurveyGraph.Proofs.ListConversion
import SurveyGraph.Proofs.NearestCommon
import SurveyGraph.Proofs.OmittedRelations
import SurveyGraph.Proofs.PairedLinks
import SurveyGraph.Proofs.PlanHalts
import SurveyGraph.Proofs.PluralNames
import SurveyGraph.Proofs.RaggedArrays
import SurveyGraph.Proofs.RedshiftGrids
import SurveyGraph.Proofs.RenderTied
import SurveyGraph.Proofs.ScopeRun
import SurveyGraph.Proofs.SharedStatements
import SurveyGraph.Proofs.StatementGuard
import SurveyGraph.Proofs.TraversalTree
import SurveyGraph.Proofs.WaitingRelations
import SurveyGraph.Proofs.WriteScope
import SurveyGraph.Proofs.WrittenNames
import SurveyGraph.Script.Digraph
import SurveyGraph.Script.Files
import SurveyGraph.Script.Read
import SurveyGraph.Survey.Catalogue
import SurveyGraph.Survey.ReadSpectra
