import Tenantory.EffectProgram
import Tenantory.ProgramPool
import Tenantory.RelyGuarantee
import Tenantory.OwnPast
import Tenantory.ConstrainedTable
import Tenantory.Doubles
import Tenantory.UuidText
import Tenantory.JsonValue
import Tenantory.StoredEntities
import Tenantory.ApplicationState
import Tenantory.QueryPlatform
import Tenantory.PagedLists
import Tenantory.RequestTarget
import Tenantory.CacheService
import Tenantory.CacheKeyText
import Tenantory.TableStatements
import Tenantory.StoredRows
import Tenantory.SlugText
import Tenantory.RetryBackoff
import Tenantory.AuditService
import Tenantory.CategoryService
import Tenantory.ProductService
import Tenantory.VariantService
import Tenantory.WarehouseService
import Tenantory.SupplierService
import Tenantory.TenantService
import Tenantory.TenantUserManagementService
import Tenantory.TenantSettingService
import Tenantory.TenantProvisioningService
import Tenantory.MediaService
import Tenantory.StockTransaction
import Tenantory.InventoryService
import Tenantory.StockListing
import Tenantory.NotificationService
import Tenantory.SampleShop
import Tenantory.StockEffect
import Tenantory.StockAttempts
import Tenantory.StockLedger
import Tenantory.StockPhases
import Tenantory.StockInterleaving
import Tenantory.FirstReplenish
import Tenantory.TenantOwnership
import Tenantory.SerialRuns
import Tenantory.PageWalks
import Tenantory.CacheAside
import Tenantory.ParentLinks
import Tenantory.CategoryTree
import Tenantory.CategoryRuns
import Tenantory.CategoryWrites
import Tenantory.CategoryForest
import Tenantory.ProductRuns
import Tenantory.VariantRuns
import Tenantory.ProductWrites
import Tenantory.PlacedProducts
import Tenantory.CatalogCache
import Tenantory.OwnRow
import Tenantory.ViewFrames
import Tenantory.NotificationDelivery
import Tenantory.LowStockAlerts
import Tenantory.StatementGuards
import Tenantory.AttestedCalls
import Tenantory.StoredChecks
import Tenantory.LiveNames
import Tenantory.NameChecks
import Tenantory.LiveParents
import Tenantory.RemovalRaces
import Tenantory.EntityFreshness
import Tenantory.ShopRuns
import Tenantory.ReusedKeys
import Tenantory.CacheCoherence
import Tenantory.FailingCalls
import Tenantory.ProvisioningTransaction
import Tenantory.TenancyRuns
import Tenantory.TenantStatuses
import Tenantory.ProvisionedTenants
import Tenantory.MediaAgreement
import Tenantory.NotificationFanOut
import Tenantory.NotificationRaces
import Tenantory.RecordedCalls
import Tenantory.CoupledRuns
import Tenantory.AuthService
import Tenantory.RequestChecks
import Tenantory.AuditLog
import Tenantory.AuditTrail
import Tenantory.EntityWalks
import Tenantory.LogWalks
import Tenantory.WildcardText
import Tenantory.SelectedRows
import Tenantory.SearchText
import Tenantory.ListFilters
import Tenantory.StockWalks
import Tenantory.NotificationActions
import Tenantory.NotedRuns
import Tenantory.SettingsRuns
import Tenantory.ItemOwners
import Tenantory.StockPlacement
import Tenantory.DeadItems
import Tenantory.ListRequests
import Tenantory.PageLinks
import Tenantory.Admission
import Tenantory.RetryRuns
import Tenantory.SeparatedWords
import Tenantory.SlugGrammar
import Tenantory.UsableSlugs
import Tenantory.BuiltKeys
import Tenantory.ParentForest
import Tenantory.TreeObjects
import Tenantory.BuiltForest
import Tenantory.ScanLoop
import Tenantory.OrderClauses
import Tenantory.OrderedLists
import Tenantory.PatchBodies
import Tenantory.ApiRoutes
import Tenantory.AnonymousRequests
import Tenantory.GrantedRoles
import Tenantory.UserResponses
import Tenantory.ConfinedRuns
import Tenantory.TenantView
import Tenantory.TenantStatements
import Tenantory.ConfinedCategories
import Tenantory.ConfinedProducts
import Tenantory.ConfinedStores
import Tenantory.ConfinedListing
import Tenantory.ConfinedNotices
import Tenantory.ConfinedStock
import Tenantory.TenantCalls
import Tenantory.StockBounds
import Tenantory.Sessions
import Tenantory.RevisionLogs
import Tenantory.AuditReplay
import Tenantory.SearchService
import Tenantory.SeenStates
import Tenantory.SparingCalls
import Tenantory.RecallingCalls
import Tenantory.PastReads
import Tenantory.OpenAccounts
import Tenantory.SpentCredit
import Tenantory.RemovedNotices
